import Screens.Context.Basic
import Screens.Proofs.Environment.Segments
import Screens.Proofs.Keyed.Order

/-! Bindings put over others.

A look-up starts at the longest part of the path that is bound (`Environment.BoundAt`), and what
is found from there is the answer (`Environment.get_of_boundAt`): after a walk that fails or ends
at `null` no shorter part is tried.

An overlay is bound where either of its two environments is, with the value of the upper one where
both are. So of the two points at which they are bound for a path the longer one is that of the
overlay, and at a tie that of the upper environment (`Environment.overlay_longest_wins`). -/
namespace Screens

namespace Path

/-- The key is the whole path, or ends before one of its dots and the rest follows that. -/
def Splits (path key rest : String) : Prop :=
  (key = path ∧ rest = "") ∨ path = key ++ "." ++ rest

instance (path key rest : String) : Decidable (Splits path key rest) :=
  inferInstanceAs (Decidable (_ ∨ _))

theorem splits_iff {path key rest : String} :
    Splits path key rest ↔ (key.toList, rest.toList) ∈ Environment.starts path.toList := by
  have hdot : ".".toList = ['.'] := rfl
  rw [Splits, Environment.mem_starts, ← @String.toList_inj path, String.toList_append,
    String.toList_append, hdot, List.append_assoc, List.singleton_append, String.toList_inj,
    String.toList_eq_nil_iff]

/-- A path is cut at its last dot first. -/
theorem cuts_descend (path : List Char) :
    (cuts path).Pairwise fun p q => q.1.length < p.1.length := by
  induction path with
  | nil => exact .nil
  | cons c rest ih =>
    have hlater : ((cuts rest).map fun p => (c :: p.1, p.2)).Pairwise
        fun p q => q.1.length < p.1.length :=
      List.pairwise_map.2 (ih.imp Nat.succ_lt_succ)
    rw [cuts]
    split
    · refine List.pairwise_append.2 ⟨hlater, List.pairwise_singleton _ _, fun p hp q hq => ?_⟩
      obtain ⟨s, -, rfl⟩ := List.mem_map.1 hp
      rw [List.mem_singleton.1 hq]
      exact Nat.succ_pos s.1.length
    · exact hlater

/-- Nothing is found from `null`. -/
theorem walk_null (path : List Char) : walk .null path = none := by
  unfold walk
  split
  · rfl
  · obtain ⟨first, more, hsegs⟩ := List.exists_cons_of_ne_nil (segments_ne_nil path)
    rw [hsegs]
    rfl

end Path

namespace Environment

open Screens.Path

theorem starts_descend (path : List Char) :
    (starts path).Pairwise fun p q => q.1.length < p.1.length := by
  refine List.pairwise_cons.2 ⟨fun p hp => ?_, cuts_descend path⟩
  have hpath : path = p.1 ++ '.' :: p.2 := mem_cuts.1 hp
  rw [hpath, List.length_append]
  exact Nat.lt_add_of_pos_right (Nat.succ_pos p.2.length)

/-! ### Where a path is bound -/

variable {env lower upper : Environment} {path key rest : String} {root : Json}

/-- Of the path and what comes before its dots, the key is the longest that is bound. -/
structure BoundAt (env : Environment) (path key rest : String) (root : Json) : Prop where
  splits : Splits path key rest
  bound : env.bindings.get? key = some root
  longest {other more : String} : Splits path other more → key.length < other.length →
    env.bindings.get? other = none

theorem BoundAt.eq_none_of_mem (h : env.BoundAt path key rest root) {p : List Char × List Char}
    (hp : p ∈ starts path.toList) (hlonger : key.length < p.1.length) :
    env.bindings.get? (String.ofList p.1) = none := by
  have hsplits : Splits path (String.ofList p.1) (String.ofList p.2) := by
    rwa [splits_iff, String.toList_ofList, String.toList_ofList]
  exact h.longest hsplits (by rwa [String.length_ofList])

theorem boundAt_iff : env.BoundAt path key rest root ↔
    Splits path key rest ∧ env.bindings.get? key = some root ∧
      ∀ p ∈ starts path.toList, key.length < p.1.length →
        env.bindings.get? (String.ofList p.1) = none := by
  refine ⟨fun h => ⟨h.splits, h.bound, fun p => h.eq_none_of_mem⟩, ?_⟩
  rintro ⟨hsplits, hbound, hlonger⟩
  refine ⟨hsplits, hbound, fun {other more} ho hlength => ?_⟩
  have hnone := hlonger _ (splits_iff.1 ho) (by rwa [String.length_toList])
  rwa [String.ofList_toList] at hnone

instance : Decidable (env.BoundAt path key rest root) := decidable_of_iff _ boundAt_iff.symm

/-- Before it all parts are longer, so none of them is bound. -/
theorem BoundAt.bindingPoint? (h : env.BoundAt path key rest root) :
    env.bindingPoint? path.toList = some (root, rest.toList) := by
  obtain ⟨longer, shorter, hstarts⟩ := List.append_of_mem (splits_iff.1 h.splits)
  have hdescend := starts_descend path.toList
  rw [hstarts] at hdescend
  rw [bindingPoint?_eq, List.findSome?_eq_some_iff]
  refine ⟨longer, _, shorter, hstarts, ?_, fun p hp => ?_⟩
  · rw [String.ofList_toList, h.bound]
    rfl
  · have hlonger := (List.pairwise_append.1 hdescend).2.2 p hp _ List.mem_cons_self
    rw [String.length_toList] at hlonger
    rw [h.eq_none_of_mem (hstarts ▸ List.mem_append_left _ hp) hlonger]
    rfl

/-- What is longer than a start of the path comes before it. -/
theorem mem_of_longer {path : List Char} {longer shorter : List (List Char × List Char)}
    {p q : List Char × List Char} (hstarts : starts path = longer ++ p :: shorter)
    (hq : q ∈ starts path) (hlength : p.1.length < q.1.length) : q ∈ longer := by
  have hdescend := starts_descend path
  rw [hstarts] at hdescend hq
  rcases List.mem_append.1 hq with hq | hq
  · exact hq
  · rcases List.mem_cons.1 hq with rfl | hq
    · exact absurd hlength (Nat.lt_irrefl _)
    · have hshorter := (List.pairwise_cons.1 (List.pairwise_append.1 hdescend).2.1).1 q hq
      exact absurd hlength (Nat.lt_asymm hshorter)

/-- A path of which a part is bound has a longest part that is. -/
theorem exists_boundAt (hsplits : Splits path key rest)
    (hbound : env.bindings.get? key = some root) :
    ∃ key' rest' root', env.BoundAt path key' rest' root' := by
  cases hpoint : env.bindingPoint? path.toList with
  | none =>
    rw [bindingPoint?_eq] at hpoint
    have hnone := List.findSome?_eq_none_iff.1 hpoint _ (splits_iff.1 hsplits)
    rw [String.ofList_toList, hbound] at hnone
    cases hnone
  | some found =>
    obtain ⟨longer, p, shorter, hstarts, hp, hnone⟩ := List.findSome?_eq_some_iff.1 hpoint
    obtain ⟨v, hv, -⟩ := Option.map_eq_some_iff.1 hp
    refine ⟨String.ofList p.1, String.ofList p.2, v, boundAt_iff.2 ⟨?_, hv, fun q hq hlength => ?_⟩⟩
    · rw [splits_iff, String.toList_ofList, String.toList_ofList, hstarts]
      exact List.mem_append_right _ List.mem_cons_self
    · rw [String.length_ofList] at hlength
      exact Option.map_eq_none_iff.1 (hnone q (mem_of_longer hstarts hq hlength))

theorem BoundAt.length_le (h : env.BoundAt path key rest root) {other more : String} {v : Json}
    (hsplits : Splits path other more) (hbound : env.bindings.get? other = some v) :
    other.length ≤ key.length := by
  refine Nat.le_of_not_lt fun hlonger => ?_
  rw [h.longest hsplits hlonger] at hbound
  cases hbound

/-- What is found from there is the answer, whatever is bound at shorter parts. -/
theorem get_of_boundAt (h : env.BoundAt path key rest root) :
    env.get path = walk root rest.toList := by
  rw [get, h.bindingPoint?]
  rfl

theorem get_of_unbound (h : ∀ key rest, Splits path key rest → env.bindings.get? key = none) :
    env.get path = none := by
  have hpoint : env.bindingPoint? path.toList = none := by
    rw [bindingPoint?_eq, List.findSome?_eq_none_iff]
    rintro ⟨part, rest⟩ hp
    have hsplits : Splits path (String.ofList part) (String.ofList rest) := by
      rwa [splits_iff, String.toList_ofList, String.toList_ofList]
    rw [h _ _ hsplits]
    rfl
  rw [get, hpoint]
  rfl

/-! ### Where an overlay is bound -/

theorem get?_overlay (lower upper : Environment) (key : String) :
    (lower.overlay upper).bindings.get? key =
      (upper.bindings.get? key).or (lower.bindings.get? key) :=
  Entries.lookup_overlay (Entries.nodup_keys upper.bindings.sorted) key

/-- The environment is bound for the path, and the other one at no longer part of it. -/
def ReachesAsFar (env other : Environment) (path : String) : Prop :=
  ∃ key rest root, env.BoundAt path key rest root ∧
    ∀ key' rest' root', other.BoundAt path key' rest' root' → key'.length ≤ key.length

/-- Where an environment is bound for the path at shorter parts only, longer ones are not bound. -/
theorem eq_none_of_shorter {n : Nat}
    (h : ∀ key rest root, env.BoundAt path key rest root → key.length < n)
    (hsplits : Splits path key rest) (hlong : n ≤ key.length) : env.bindings.get? key = none := by
  cases hbound : env.bindings.get? key with
  | none => rfl
  | some v =>
    obtain ⟨longest, more, root, hat⟩ := exists_boundAt hsplits hbound
    have hshort := Nat.lt_of_le_of_lt (hat.length_le hsplits hbound) (h _ _ _ hat)
    exact absurd hlong (Nat.not_le_of_lt hshort)

/-- Where the upper environment is bound at least as long, so is the overlay. -/
theorem BoundAt.overlay_upper (h : upper.BoundAt path key rest root)
    (hlower : ∀ key' rest' root', lower.BoundAt path key' rest' root' → key'.length ≤ key.length) :
    (lower.overlay upper).BoundAt path key rest root where
  splits := h.splits
  bound := by
    rw [get?_overlay, h.bound]
    rfl
  longest hother hlonger := by
    have hshorter (key' rest' root') (hat : lower.BoundAt path key' rest' root') :=
      Nat.lt_succ_of_le (hlower key' rest' root' hat)
    rw [get?_overlay, h.longest hother hlonger, eq_none_of_shorter hshorter hother hlonger]
    rfl

/-- Where the lower environment is bound longer, so is the overlay. -/
theorem BoundAt.overlay_lower (h : lower.BoundAt path key rest root)
    (hupper : ∀ key' rest' root', upper.BoundAt path key' rest' root' → key'.length < key.length) :
    (lower.overlay upper).BoundAt path key rest root where
  splits := h.splits
  bound := by
    rw [get?_overlay, eq_none_of_shorter hupper h.splits (Nat.le_refl _), h.bound]
    rfl
  longest hother hlonger := by
    rw [get?_overlay, eq_none_of_shorter hupper hother (Nat.le_of_lt hlonger),
      h.longest hother hlonger]
    rfl

theorem get_overlay_of_reaches (h : upper.ReachesAsFar lower path) :
    (lower.overlay upper).get path = upper.get path := by
  obtain ⟨key, rest, root, hat, hlower⟩ := h
  rw [get_of_boundAt hat, get_of_boundAt (hat.overlay_upper hlower)]

theorem get_overlay_of_not_reaches (h : ¬ upper.ReachesAsFar lower path) :
    (lower.overlay upper).get path = lower.get path := by
  by_cases hlower : ∃ key rest root, lower.BoundAt path key rest root
  · obtain ⟨key, rest, root, hat⟩ := hlower
    have hupper : ∀ key' rest' root', upper.BoundAt path key' rest' root' →
        key'.length < key.length := by
      intro key' rest' root' hat'
      refine Nat.lt_of_not_le fun hle => h ⟨key', rest', root', hat', fun _ _ _ hother => ?_⟩
      exact Nat.le_trans (hat.length_le hother.splits hother.bound) hle
    rw [get_of_boundAt hat, get_of_boundAt (hat.overlay_lower hupper)]
  · -- Neither environment is bound for the path: the upper one would reach as far as this.
    have hnot_lower : ∀ key rest root, lower.BoundAt path key rest root → key.length < 0 :=
      fun _ _ _ hat => absurd ⟨_, _, _, hat⟩ hlower
    have hnot_upper : ∀ key rest root, upper.BoundAt path key rest root → key.length < 0 :=
      fun _ _ _ hat => absurd ⟨_, _, _, hat, fun _ _ _ hother => absurd ⟨_, _, _, hother⟩ hlower⟩ h
    rw [get_of_unbound fun _ _ hs => eq_none_of_shorter hnot_lower hs (Nat.zero_le _),
      get_of_unbound]
    intro key rest hs
    rw [get?_overlay, eq_none_of_shorter hnot_upper hs (Nat.zero_le _),
      eq_none_of_shorter hnot_lower hs (Nat.zero_le _)]
    rfl

/-- **The longest binding decides.** Of two environments, one put over the other, the upper one
answers a path where it is bound for it and the lower one is not bound longer; else the lower one
answers. So nothing bound above at a shorter key, an object say, overrides what is bound below at a
longer one; `null` above hides what is bound below at the same key or a shorter one; and what is
found or not from the longest key that is bound is the answer. -/
theorem overlay_longest_wins (lower upper : Environment) (path : String) :
    (upper.ReachesAsFar lower path → (lower.overlay upper).get path = upper.get path) ∧
    (¬ upper.ReachesAsFar lower path → (lower.overlay upper).get path = lower.get path) ∧
    (∀ key rest root, lower.BoundAt path key rest root →
      ∀ shorter more v, upper.BoundAt path shorter more v → shorter.length < key.length →
        (lower.overlay upper).get path = walk root rest.toList) ∧
    (∀ key rest, upper.BoundAt path key rest .null →
      (∀ other more v, lower.BoundAt path other more v → other.length ≤ key.length) →
        (lower.overlay upper).get path = none) ∧
    ∀ key rest root, (lower.overlay upper).BoundAt path key rest root →
      (lower.overlay upper).get path = walk root rest.toList := by
  refine ⟨get_overlay_of_reaches, get_overlay_of_not_reaches, ?_, ?_, fun _ _ _ => get_of_boundAt⟩
  · intro key rest root hat shorter more v hupper hlt
    refine get_of_boundAt (hat.overlay_lower fun _ _ _ hother => ?_)
    exact Nat.lt_of_le_of_lt (hupper.length_le hother.splits hother.bound) hlt
  · intro key rest hat hlower
    rw [get_of_boundAt (hat.overlay_upper hlower), walk_null]

/-- What a request tells of who asks. -/
def visit : Environment := ((Context.forUser "u1").withLocale "fr").environment

/-- What is posted with it: a user in an object, and no locale. -/
def profile : Environment :=
  .ofJson (.obj [("locale", .null),
    ("user", .obj [("id", .obj [("first", .str "x")]), ("name", .str "Ada")])])

/-- Of the user posted the name counts and the id does not, and there is no locale. -/
theorem visit_with_profile :
    (visit.overlay profile).get "user.name" = some (.str "Ada") ∧
    (visit.overlay profile).get "user.id" = some (.str "u1") ∧
    (visit.overlay profile).get "user.id" = visit.get "user.id" ∧
    (visit.overlay profile).get "locale" = none ∧
    (visit.overlay profile).get "user.id.first" = none ∧
    profile.get "user.id.first" = some (.str "x") := by
  have hid : visit.BoundAt "user.id" "user.id" "" (.str "u1") := by decide +kernel
  have hlocale : visit.BoundAt "locale" "locale" "" (.str "fr") := by decide +kernel
  have huser : profile.BoundAt "user.id" "user" "id"
      (.obj [("id", .obj [("first", .str "x")]), ("name", .str "Ada")]) := by decide +kernel
  refine ⟨?_, ?_, ?_, ?_, ?_, by decide +kernel⟩
  · have hname : profile.BoundAt "user.name" "user" "name"
        (.obj [("id", .obj [("first", .str "x")]), ("name", .str "Ada")]) := by decide +kernel
    have hnone : visit.bindingPoint? "user.name".toList = none := by decide +kernel
    have hreaches : profile.ReachesAsFar visit "user.name" :=
      ⟨_, _, _, hname, fun _ _ _ h => by cases h.bindingPoint?.symm.trans hnone⟩
    exact ((overlay_longest_wins visit profile "user.name").1 hreaches).trans (by decide +kernel)
  · exact (overlay_longest_wins visit profile "user.id").2.2.1 _ _ _ hid _ _ _ huser (by decide)
  · refine (overlay_longest_wins visit profile "user.id").2.1 ?_
    rintro ⟨key, rest, root, hat, hle⟩
    have hlong := Nat.le_trans (hle _ _ _ hid) (huser.length_le hat.splits hat.bound)
    exact absurd hlong (by decide)
  · refine (overlay_longest_wins visit profile "locale").2.2.2.1 "locale" "" (by decide +kernel) ?_
    exact fun _ _ _ h => hlocale.length_le h.splits h.bound
  · exact (overlay_longest_wins visit profile "user.id.first").2.2.2.2 "user.id" "first" (.str "u1")
      (by decide +kernel)

end Environment
end Screens
