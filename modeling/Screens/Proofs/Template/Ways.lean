import Screens.Template.Node

/-! Ways into a template.

A way leads from a node, turn by turn, to a node below it: to one of a container's children,
or to the template of a list. Walking meets every node at the end of exactly one way
(`mem_places`, `map_places`), and the ways come in the order of their addresses
(`pairwise_places`), which is document order: what stands above comes first, then what stands
further to the front. -/
namespace Screens

/-- One step down: into the child at an index, or into the template of a list. -/
inductive Turn where
  | child (index : Nat)
  | item
deriving DecidableEq

/-- No node has both children and an item template, so the two never meet. -/
def Turn.index : Turn → Nat
  | child index => index
  | item => 0

abbrev Way := List Turn

/-- Ways are in document order if their addresses are in lexicographic order. -/
def Way.address (way : Way) : List Nat := way.map Turn.index

namespace Node

/-- What a turn leads to. -/
def next? : Turn → Node → Option Node
  | .child index, container _ _ children => children[index]?
  | .item, list _ _ item => some item
  | _, _ => none

/-- What a way leads to. -/
def along? : Way → Node → Option Node
  | [], n => some n
  | turn :: way, n => (n.next? turn).bind (along? way)

/-- The places one turn further down. -/
def under (turn : Turn) (places : List (Way × Node)) : List (Way × Node) :=
  places.map fun p => (turn :: p.1, p.2)

mutual

/-- The nodes in the order they are walked, each with the way to it. -/
def places : Node → List (Way × Node)
  | container c kind children => ([], container c kind children) :: placesAll 0 children
  | list c source item => ([], list c source item) :: under .item item.places
  | n => [([], n)]

/-- The places of nodes side by side, the first at this index. -/
def placesAll (index : Nat) : List Node → List (Way × Node)
  | [] => []
  | n :: rest => under (.child index) n.places ++ placesAll (index + 1) rest

end

variable {n m : Node} {nodes : List Node} {way : Way} {turn : Turn} {index : Nat}

theorem along?_append (way further : Way) (n : Node) :
    n.along? (way ++ further) = (n.along? way).bind (along? further) := by
  induction way generalizing n with
  | nil => rfl
  | cons turn way ih =>
    rw [List.cons_append, along?, along?, Option.bind_assoc]
    exact congrArg _ (funext ih)

theorem map_under (turn : Turn) (places : List (Way × Node)) :
    (under turn places).map (·.2) = places.map (·.2) := by
  rw [under, List.map_map]
  rfl

/-! ### Every node once -/

mutual

/-- The places are the nodes that are walked. -/
theorem map_places : (n : Node) → n.places.map (·.2) = n.walk
  | container c kind children => by
    rw [places, walk, List.map_cons, map_placesAll 0 children]
  | list c source item => by
    rw [places, walk, List.map_cons, map_under, map_places item]
  | text .. | button .. | image .. | spacer _ | divider _ | unsupported .. => rfl

theorem map_placesAll (index : Nat) : (nodes : List Node) →
    (placesAll index nodes).map (·.2) = walkAll nodes
  | [] => rfl
  | n :: rest => by
    rw [placesAll, walkAll, List.map_append, map_under, map_places n, map_placesAll (index + 1) rest]

end

theorem mem_under {places : List (Way × Node)} :
    (way, m) ∈ under turn places ↔ ∃ further, way = turn :: further ∧ (further, m) ∈ places := by
  rw [under, List.mem_map]
  constructor
  · rintro ⟨p, hp, heq⟩
    cases heq
    exact ⟨p.1, rfl, hp⟩
  · rintro ⟨further, rfl, hp⟩
    exact ⟨_, hp, rfl⟩

/-- A place among nodes is one of a node, a turn further down. -/
theorem mem_placesAll : (way, m) ∈ placesAll index nodes ↔
    ∃ i n further, nodes[i]? = some n ∧ way = .child (index + i) :: further ∧
      (further, m) ∈ n.places := by
  induction nodes generalizing index with
  | nil => simp [placesAll]
  | cons n rest ih =>
    rw [placesAll, List.mem_append, mem_under, ih]
    constructor
    · rintro (⟨further, rfl, hp⟩ | ⟨i, k, further, hi, rfl, hp⟩)
      · exact ⟨0, n, further, rfl, rfl, hp⟩
      · exact ⟨i + 1, k, further, hi, by rw [Nat.add_right_comm, Nat.add_assoc], hp⟩
    · rintro ⟨i, k, further, hi, rfl, hp⟩
      cases i with
      | zero =>
        cases hi
        exact .inl ⟨further, rfl, hp⟩
      | succ i =>
        exact .inr ⟨i, k, further, hi, by rw [Nat.add_right_comm, Nat.add_assoc], hp⟩

/-- The places below a node. -/
def placesInside : Node → List (Way × Node)
  | container _ _ children => placesAll 0 children
  | list _ _ item => under .item item.places
  | _ => []

theorem places_eq (n : Node) : n.places = ([], n) :: n.placesInside := by
  cases n <;> rfl

/-- A place below a node is one of a node that a turn leads to. -/
theorem mem_placesInside : (way, m) ∈ n.placesInside ↔
    ∃ turn k further, n.next? turn = some k ∧ way = turn :: further ∧ (further, m) ∈ k.places := by
  cases n with
  | container c kind children =>
    rw [placesInside, mem_placesAll]
    constructor
    · rintro ⟨i, k, further, hi, rfl, hp⟩
      rw [Nat.zero_add]
      exact ⟨.child i, k, further, hi, rfl, hp⟩
    · rintro ⟨turn, k, further, hk, rfl, hp⟩
      cases turn with
      | child i => exact ⟨i, k, further, hk, by rw [Nat.zero_add], hp⟩
      | item => cases hk
  | list c source item =>
    rw [placesInside, mem_under]
    constructor
    · rintro ⟨further, rfl, hp⟩
      exact ⟨.item, item, further, rfl, rfl, hp⟩
    · rintro ⟨turn, k, further, hk, rfl, hp⟩
      cases turn with
      | child i => cases hk
      | item =>
        cases hk
        exact ⟨further, rfl, hp⟩
  | text | button | image | spacer | divider | unsupported => simp [placesInside, next?]

/-- The places are where the ways lead. -/
theorem mem_places : (way, m) ∈ n.places ↔ n.along? way = some m := by
  induction way generalizing n with
  | nil =>
    rw [places_eq, List.mem_cons, mem_placesInside, along?]
    constructor
    · rintro (h | ⟨_, _, _, _, h, _⟩) <;> cases h
      rfl
    · rintro ⟨⟩
      exact .inl rfl
  | cons turn way ih =>
    rw [places_eq, List.mem_cons, mem_placesInside, along?, Option.bind_eq_some_iff]
    constructor
    · rintro (h | ⟨_, k, _, hk, h, hp⟩) <;> cases h
      exact ⟨k, hk, ih.1 hp⟩
    · rintro ⟨k, hk, hp⟩
      exact .inr ⟨turn, k, way, hk, rfl, ih.2 hp⟩

/-- What is walked is what ways lead to. -/
theorem mem_walk : m ∈ n.walk ↔ ∃ way, n.along? way = some m := by
  rw [← map_places, List.mem_map]
  constructor
  · rintro ⟨p, hp, rfl⟩
    exact ⟨p.1, mem_places.1 hp⟩
  · rintro ⟨way, hway⟩
    exact ⟨_, mem_places.2 hway, rfl⟩

/-! ### In document order -/

/-- The places come in document order. -/
def Ascending (places : List (Way × Node)) : Prop :=
  places.Pairwise fun p q => p.1.address < q.1.address

theorem Ascending.under {places : List (Way × Node)} (h : Ascending places) (turn : Turn) :
    Ascending (under turn places) :=
  List.pairwise_map.2 (h.imp fun hlt => List.cons_lt_cons_iff.2 (.inr ⟨rfl, hlt⟩))

/-- A node comes before those below it. -/
theorem Ascending.cons (h : Ascending n.placesInside) : Ascending n.places := by
  rw [places_eq]
  refine List.pairwise_cons.2 ⟨fun p hp => ?_, h⟩
  obtain ⟨turn, _, further, _, hway, _⟩ := mem_placesInside.1 (show (p.1, p.2) ∈ n.placesInside from hp)
  rw [hway]
  exact List.nil_lt_cons _ _

mutual

theorem pairwise_places : (n : Node) → Ascending n.places
  | container _ _ children => Ascending.cons (pairwise_placesAll 0 children)
  | list _ _ item => Ascending.cons ((pairwise_places item).under .item)
  | text .. | button .. | image .. | spacer _ | divider _ | unsupported .. =>
    List.pairwise_singleton _ _

theorem pairwise_placesAll (index : Nat) : (nodes : List Node) → Ascending (placesAll index nodes)
  | [] => .nil
  | n :: rest => by
    rw [placesAll]
    refine List.pairwise_append.2
      ⟨(pairwise_places n).under _, pairwise_placesAll (index + 1) rest, ?_⟩
    intro p hp q hq
    obtain ⟨_, hp, _⟩ := mem_under.1 hp
    obtain ⟨i, _, _, _, hq, _⟩ := mem_placesAll.1 hq
    rw [hp, hq]
    -- The one starts with this index, the other with a later one.
    exact List.cons_lt_cons_iff.2 (.inl (show index < index + 1 + i by omega))

end

end Node
end Screens
