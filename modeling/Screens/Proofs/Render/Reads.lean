import Screens.Proofs.Render.Substitution

/-! What a screen reads.

Below scopes that answer the paths mentioned in a node alike it is evaluated alike, faults
included (`Visit.evaluated_of_agree`): the scope of an item below them answers these paths
alike as well, and a list finds the same items in both.

`Document.render_of_agree`: so of an environment a screen reads no more than the paths it
mentions, whatever else is bound there, and under whatever keys. -/
namespace Screens

/-- The site with another scope. -/
def Site.rescoped (site : Site) (scope : Scope) : Site := { site with scope }

namespace Visit

variable {limit : Nat} {n : Node} {site : Site} {scope : Scope}

theorem agree_inside {m : Node} (hm : m ∈ n.inside) (h : site.scope.AgreeOn n.allMentions scope) :
    site.scope.AgreeOn m.allMentions scope :=
  h.mono fun _ hp =>
    have ⟨k, hk, hpath⟩ := List.mem_flatMap.1 hp
    List.mem_flatMap.2 ⟨k, Node.walk_subset_of_mem_inside hm hk, hpath⟩

/-- What is visited inside is evaluated alike if each node there is, wherever the scopes
agree on what it mentions. -/
theorem inner_of_agree (h : site.scope.AgreeOn n.allMentions scope) (identity : String)
    (hinside : ∀ m ∈ n.inside, ∀ {site : Site} {scope : Scope},
      site.scope.AgreeOn m.allMentions scope → ∀ identity,
        evaluated limit ⟨m, site, identity⟩ = evaluated limit ⟨m, site.rescoped scope, identity⟩) :
    (inner ⟨n, site, identity⟩).map (evaluated limit) =
      (inner ⟨n, site.rescoped scope, identity⟩).map (evaluated limit) := by
  have hown : site.scope.AgreeOn n.mentions scope :=
    h.mono fun _ hp => List.mem_flatMap.2 ⟨n, n.mem_walk_self, hp⟩
  cases n with
  | container c kind nodes =>
    simp only [inner, children, List.map_map]
    refine List.map_congr_left fun e he => ?_
    have hmem : e.1 ∈ nodes := List.fst_mem_of_mem_zipIdx he
    have hagree := agree_inside (n := .container c kind nodes) hmem h
    exact @hinside e.1 hmem site.inside scope hagree _
  | list c source item =>
    have hmem : item ∈ (Node.list c source item).inside := List.mem_cons_self
    have hitems := Evaluate.items_congr identity (lookup_congr (t := site.rescoped scope) hown)
    show (if site.expanding.contains source then [] else items source item site identity).map _ =
      (if site.expanding.contains source then []
        else items source item (site.rescoped scope) identity).map _
    split
    · rfl
    · simp only [items, hitems, List.map_map]
      refine List.map_congr_left fun e _ => ?_
      exact @hinside item hmem (site.atItem source _ e.1) _ ((agree_inside hmem h).withItem e.1) _
  | text | button | image | spacer | divider | unsupported => rfl

/-- A node is evaluated alike below scopes that answer what is mentioned in it alike. -/
theorem evaluated_of_agree (n : Node) (h : site.scope.AgreeOn n.allMentions scope)
    (identity : String) :
    evaluated limit ⟨n, site, identity⟩ = evaluated limit ⟨n, site.rescoped scope, identity⟩ := by
  induction n using Node.induction_inside generalizing site scope identity with
  | step n ih =>
    have hown : site.scope.AgreeOn n.mentions (site.rescoped scope).scope :=
      h.mono fun _ hp => List.mem_flatMap.2 ⟨n, n.mem_walk_self, hp⟩
    have hadmitted := admitted_congr hown identity identity
    have hcyclic : cyclic ⟨n, site, identity⟩ = cyclic ⟨n, site.rescoped scope, identity⟩ := rfl
    rcases cases_entered limit ⟨n, site, identity⟩ with ⟨hd, _⟩ | ⟨hd, ha, _⟩ | ⟨hd, ha, he⟩
    · rw [evaluated_of_tooDeep hd,
        evaluated_of_tooDeep (v := ⟨n, site.rescoped scope, identity⟩) hd]
    · have ha' : admitted ⟨n, site.rescoped scope, identity⟩ = false := hadmitted ▸ ha
      rw [evaluated_of_not_admitted hd ha,
        evaluated_of_not_admitted (v := ⟨n, site.rescoped scope, identity⟩) hd ha']
    · have he' : entered limit ⟨n, site.rescoped scope, identity⟩ = true := by
        rw [← he, entered, entered, hadmitted]
        rfl
      exact evaluated_congr he he' (front_congr hown identity hcyclic)
        (opening_congr hown identity hcyclic) (closing_congr hown identity hcyclic)
        (inner_of_agree h identity ih)

end Visit

namespace Document

/-- The paths mentioned in a screen: the fields of the conditions, the data sources of the
lists, and the tokens of the texts, the locations of images and the actions. -/
def mentions (d : Document) : List String := d.nodes.flatMap Node.mentions

/-- Environments that answer alike what a screen mentions give the same tree. -/
theorem render_of_agree (limit : Nat) (d : Document) {env other : Environment}
    (h : ∀ path ∈ d.mentions, env.get path = other.get path) :
    d.render limit env = d.render limit other := by
  have htop : (d.top env).map (Visit.evaluated limit) =
      (d.top other).map (Visit.evaluated limit) := by
    simp only [top, Visit.children, List.map_map]
    refine List.map_congr_left fun e he => ?_
    have hmem : e.1 ∈ d.components := List.fst_mem_of_mem_zipIdx he
    have hagree : (Site.top env).scope.AgreeOn e.1.allMentions (.root other) := by
      intro path hpath
      obtain ⟨m, hm, hp⟩ := List.mem_flatMap.1 hpath
      have hget := h path (List.mem_flatMap.2 ⟨m, Node.mem_walkAll.2 ⟨e.1, hmem, hm⟩, hp⟩)
      exact (Scope.lookup_root env path).trans (hget.trans (Scope.lookup_root other path).symm)
    exact Visit.evaluated_of_agree e.1 hagree _
  rw [render_eq, render_eq, htop]

/-- A greeting, and the orders of the viewer if there are any. -/
def account : Document :=
  .ofComponents "account" "" [.ofText "hello" "Hello \x7b\x7buser.name\x7d\x7d, \x7b\x7bgone\x7d\x7d",
    .list ⟨some "orders", none, none, [⟨"user.orders", .present, ""⟩]⟩ "user.orders"
      (.ofText "order" "\x7b\x7bitem.name\x7d\x7d \x7b\x7bitem.total\x7d\x7d")]

/-- The viewer bound flat, with a total for every order. -/
def flatViewer : Environment :=
  .ofJson (.obj [("user.name", .str "Ada"),
    ("user.orders", .arr [.obj [("name", .str "tea")], .obj []]), ("item.total", .bool true)])

/-- The same in an object, among other things. -/
def nestedViewer : Environment :=
  .ofJson (.obj [("item", .obj [("total", .bool true), ("price", .null)]),
    ("user", .obj [("name", .str "Ada"), ("age", .null),
      ("orders", .arr [.obj [("name", .str "tea")], .obj []])]),
    ("theme", .str "dark")])

theorem account_viewers :
    (∀ path ∈ account.mentions, flatViewer.get path = nestedViewer.get path) ∧
      account.render standardDepth flatViewer = account.render standardDepth nestedViewer :=
  have hagree : ∀ path ∈ account.mentions, flatViewer.get path = nestedViewer.get path := by
    decide +kernel
  ⟨hagree, render_of_agree standardDepth account hagree⟩

end Document
end Screens
