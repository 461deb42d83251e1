import Screens.Proofs.Template.RoundTrip

/-! Trees that are shallow enough to be decoded again.

A node built from its parts, with nothing unsupported in it and no number in its styles that is
not finite, is decoded again from its encoding as far as there are levels left above the cut-off:
one level is spent on the node itself, the others are there for the nodes right inside it
(`ofFields_written`), and with none left an object becomes an unsupported node, which the tree has
nowhere.

`decode_encode_iff_shallow`: so such a tree comes back as it was exactly if all its nodes are
above the cut-off. -/
namespace Screens.Node

open Document (degraded?)

/-- No node of the tree is unsupported. -/
def Supported (n : Node) : Prop := ∀ way m, n.along? way = some m → degraded? m = none

/-- Every node of the tree is less deep than that; the root is at depth 0. -/
def ShallowerThan (depth : Nat) (n : Node) : Prop :=
  ∀ way m, n.along? way = some m → way.length < depth

variable {n m : Node} {turn : Turn} {cut levels : Nat}

theorem along?_cons {way : Way} (hm : n.next? turn = some m) :
    n.along? (turn :: way) = m.along? way := by
  rw [along?, hm, Option.bind_some]

theorem supported_iff :
    n.Supported ↔ degraded? n = none ∧ ∀ turn m, n.next? turn = some m → m.Supported := by
  constructor
  · intro h
    exact ⟨h [] n rfl, fun turn m hm way k hk => h (turn :: way) k (by rwa [along?_cons hm])⟩
  · rintro ⟨hself, hinside⟩ way k hk
    cases way with
    | nil =>
      cases hk
      exact hself
    | cons turn way =>
      obtain ⟨m, hm, hk⟩ := Option.bind_eq_some_iff.1 hk
      exact hinside turn m hm way k hk

theorem not_shallowerThan_zero (n : Node) : ¬ n.ShallowerThan 0 :=
  fun h => absurd (h [] n rfl) (Nat.lt_irrefl 0)

theorem shallowerThan_succ :
    n.ShallowerThan (levels + 1) ↔ ∀ turn m, n.next? turn = some m → m.ShallowerThan levels := by
  constructor
  · intro h turn m hm way k hk
    have hlength := h (turn :: way) k (by rwa [along?_cons hm])
    simpa using hlength
  · intro h way k hk
    cases way with
    | nil => simp
    | cons turn way =>
      obtain ⟨m, hm, hk⟩ := Option.bind_eq_some_iff.1 hk
      have hlength := h turn m hm way k hk
      simpa using hlength

/-- A node that is supported is never written as nothing. -/
theorem isNull_encode (h : degraded? n = none) : n.encode.canonical.isNull = false := by
  cases n <;> first | rfl | cases h

/-- With so many levels left, a tree comes back as it was exactly if none of its nodes is that
deep. -/
theorem decodeAt_encode_iff (h : n.Supported) (hf : n.FiniteStyles) :
    decodeAt cut levels n.encode.canonical = n ↔ n.ShallowerThan levels := by
  induction levels generalizing n with
  | zero =>
    refine ⟨fun he => ?_, fun hs => absurd hs (not_shallowerThan_zero n)⟩
    obtain ⟨hself, hinside⟩ := supported_iff.1 h
    obtain ⟨fields, hfields, -⟩ := ofFields_written (decodeAt cut 0) hself hf.self fun m hm =>
      isNull_encode (supported_iff.1 (hinside .item m hm)).1
    -- An object is cut off here, and what stands for it is in no supported tree.
    rw [hfields] at he
    rw [← he] at hself
    cases hself
  | succ levels ih =>
    obtain ⟨hself, hinside⟩ := supported_iff.1 h
    obtain ⟨fields, hfields, hagain⟩ :=
      ofFields_written (decodeAt cut levels) hself hf.self fun m hm =>
        isNull_encode (supported_iff.1 (hinside .item m hm)).1
    have hdecoded : decodeAt cut (levels + 1) n.encode.canonical =
        n.mapInside fun m => decodeAt cut levels m.encode.canonical := by
      rw [hfields]
      exact hagain
    rw [hdecoded, mapInside_eq_self, shallowerThan_succ]
    refine forall_congr' fun turn => forall_congr' fun m => forall_congr' fun hm => ?_
    exact ih (hinside turn m hm) (hf.inside hm)

/-- **Trees survive their encoding exactly if they are shallow enough.** A tree with no unsupported
node in it and only finite numbers in its styles, whatever else its ids, styles, actions and
conditions are, is decoded again from the value it is encoded as if and only if every node of it
is less deep than the cut-off. -/
theorem decode_encode_iff_shallow (n : Node) (h : n.Supported) (hf : n.FiniteStyles) :
    decode n.encode.canonical = n ↔
      ∀ way m, n.along? way = some m → way.length < standardCut :=
  decodeAt_encode_iff h hf

/-! ### At the cut-off -/

/-- A text with a bit of everything. -/
def ornate : Node :=
  .text ⟨some "",
    some ⟨some ⟨some (.finite (.zero true)), none⟩, none, some "", none, none, none, none, none⟩,
    some ⟨"", "", .ofList [("b", ""), ("a", "1")]⟩, [⟨"", .unknown, ""⟩]⟩ ""

/-- It stands at this depth, as the template of a list in a stack of cards. -/
def tower : Nat → Node
  | 0 => ornate
  | 1 => .ofList "rows" "" ornate
  | depth + 2 => .container ⟨none, none, none, []⟩ .card [tower (depth + 1)]

/-- What one turn leads to in a tower is the rest of it. -/
theorem next?_tower {depth : Nat} (hm : (tower (depth + 1)).next? turn = some m) :
    m = tower depth := by
  cases depth with
  | zero =>
    cases turn with
    | item =>
      cases hm
      rfl
    | child => cases hm
  | succ depth =>
    cases turn with
    | item => cases hm
    | child index =>
      cases index with
      | zero =>
        cases hm
        rfl
      | succ index => cases hm

theorem tower_supported (depth : Nat) : (tower depth).Supported := by
  induction depth with
  | zero =>
    refine supported_iff.2 ⟨rfl, fun turn m hm => ?_⟩
    cases turn <;> cases hm
  | succ depth ih =>
    refine supported_iff.2 ⟨?_, fun turn m hm => ?_⟩
    · cases depth <;> rfl
    · rw [next?_tower hm]
      exact ih

theorem tower_finiteStyles (depth : Nat) : (tower depth).FiniteStyles := by
  induction depth with
  | zero =>
    intro m hm s hs x hx
    rw [List.mem_singleton.1 hm] at hs
    cases hs
    rw [List.mem_singleton.1 hx]
    rfl
  | succ depth ih =>
    intro m hm
    rcases mem_walk_iff.1 hm with rfl | ⟨turn, k, hk, hm⟩
    · cases depth <;> exact fun s hs => absurd hs (Option.not_mem_none s)
    · rw [next?_tower hk] at hm
      exact ih m hm

theorem tower_shallowerThan {depth : Nat} : (tower depth).ShallowerThan levels ↔ depth < levels := by
  induction levels generalizing depth with
  | zero => simp [not_shallowerThan_zero]
  | succ levels ih =>
    rw [shallowerThan_succ]
    cases depth with
    | zero =>
      refine ⟨fun _ => Nat.succ_pos levels, fun _ turn m hm => ?_⟩
      cases turn <;> cases hm
    | succ depth =>
      rw [Nat.succ_lt_succ_iff, ← ih]
      constructor
      · intro h
        cases depth with
        | zero => exact h .item _ rfl
        | succ depth => exact h (.child 0) _ rfl
      · intro h turn m hm
        rw [next?_tower hm]
        exact h

/-- Above the cut-off the text is there again, at the cut-off it is not. -/
theorem tower_survives :
    (tower 511).Supported ∧ (tower 511).FiniteStyles ∧
      decode (tower 511).encode.canonical = tower 511 ∧
      (tower 512).Supported ∧ (tower 512).FiniteStyles ∧
      decode (tower 512).encode.canonical ≠ tower 512 := by
  refine ⟨tower_supported 511, tower_finiteStyles 511, ?_, tower_supported 512,
    tower_finiteStyles 512, fun h => ?_⟩
  · exact (decode_encode_iff_shallow _ (tower_supported 511) (tower_finiteStyles 511)).2
      (tower_shallowerThan.2 (by decide))
  · have hshallow :=
      (decode_encode_iff_shallow _ (tower_supported 512) (tower_finiteStyles 512)).1 h
    exact absurd (tower_shallowerThan.1 hshallow) (by decide)

end Screens.Node
