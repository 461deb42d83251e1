import Screens.Render.Evaluate

/-! Identities as paths.

An identity is cut in front of every `/` and every `#`. What is joined to an identity
by one of them, itself without either, is then one more segment at the end, so two
identities that start with the same segments can be told apart by the next one. -/
namespace Screens.Identity

def isMark (c : Char) : Bool := c == '/' || c == '#'

/-- A text with neither `/` nor `#` in it. -/
def Unmarked (t : List Char) : Prop := ∀ c ∈ t, isMark c = false

theorem unmarked_of_not_mem {t : List Char} (hslash : '/' ∉ t) (hhash : '#' ∉ t) : Unmarked t := by
  intro c hc
  cases hm : isMark c with
  | false => rfl
  | true =>
    rw [isMark, Bool.or_eq_true, beq_iff_eq, beq_iff_eq] at hm
    rcases hm with rfl | rfl
    · exact absurd hc hslash
    · exact absurd hc hhash

/-- A text cut in front of every mark. -/
def segments : List Char → List (List Char)
  | [] => [[]]
  | c :: rest =>
    let inner := (segments rest).modifyHead (c :: ·)
    if isMark c then [] :: inner else inner

theorem segments_ne_nil (t : List Char) : segments t ≠ [] := by
  induction t with
  | nil => simp [segments]
  | cons c rest ih =>
    rw [segments]
    split
    · simp
    · simpa using ih

theorem segments_unmarked {t : List Char} (h : Unmarked t) : segments t = [t] := by
  induction t with
  | nil => rfl
  | cons c rest ih =>
    have hc : isMark c = false := h c List.mem_cons_self
    have hrest : Unmarked rest := fun d hd => h d (List.mem_cons_of_mem c hd)
    rw [segments, ih hrest]
    simp [hc]

theorem modifyHead_append {α : Type} {f : α → α} {a b : List α} (h : a ≠ []) :
    (a ++ b).modifyHead f = a.modifyHead f ++ b := by
  cases a with
  | nil => exact absurd rfl h
  | cons x rest => rfl

/-- What is joined by a mark is one more segment. -/
theorem segments_append (p : List Char) {mark : Char} {t : List Char} (hmark : isMark mark = true)
    (ht : Unmarked t) : segments (p ++ mark :: t) = segments p ++ [mark :: t] := by
  induction p with
  | nil =>
    have : segments (mark :: t) = [] :: (segments t).modifyHead (mark :: ·) := by
      rw [segments, if_pos hmark]
    show segments (mark :: t) = [[]] ++ [mark :: t]
    rw [this, segments_unmarked ht]
    rfl
  | cons c rest ih =>
    show segments (c :: (rest ++ mark :: t)) = _
    rw [segments, segments, ih, modifyHead_append (segments_ne_nil rest)]
    split <;> rfl

/-! ### The paths of identities -/

/-- The segments of an identity. -/
def path (identity : String) : List (List Char) := segments identity.toList

theorem path_ne_nil (identity : String) : path identity ≠ [] :=
  segments_ne_nil identity.toList

def digits (index : Nat) : List Char := Nat.toDigits 10 index

theorem digits_injective {i j : Nat} (h : digits i = digits j) : i = j := by
  have := congrArg (Nat.ofDigitChars 10 · 0) h
  simpa only [digits, Nat.ofDigitChars_ten_toDigits] using this

theorem isDigit_of_mem_digits {i : Nat} {c : Char} (h : c ∈ digits i) : c.isDigit = true :=
  Nat.isDigit_of_mem_toDigits (by decide : 0 < 10) (by decide : 10 ≤ 10) h

theorem unmarked_digits (index : Nat) : Unmarked (digits index) := by
  refine unmarked_of_not_mem (fun h => ?_) (fun h => ?_) <;>
    exact absurd (isDigit_of_mem_digits h) (by decide)

/-- The path of the place with an index below a parent. -/
def place (parent : List (List Char)) (index : Nat) : List (List Char) :=
  parent ++ ['/' :: digits index]

/-- The path of an item of a list. -/
def item (list : List (List Char)) (index : Nat) : List (List Char) :=
  list ++ ['#' :: digits index]

/-- The path of a node with an id, inside the item with the owner's identity if there
is one. -/
def declared : Option String → String → List (List Char)
  | none, id => [id.toList]
  | some owner, id => path owner ++ ['/' :: id.toList]

/-- How many segments stand in front of the last one of what is declared. -/
def depth : Option String → Nat
  | none => 0
  | some owner => (path owner).length

@[simp] theorem length_place (parent : List (List Char)) (index : Nat) :
    (place parent index).length = parent.length + 1 := by simp [place]

@[simp] theorem length_item (list : List (List Char)) (index : Nat) :
    (item list index).length = list.length + 1 := by simp [item]

@[simp] theorem length_declared (owner : Option String) (id : String) :
    (declared owner id).length = depth owner + 1 := by cases owner <;> simp [declared, depth]

theorem path_place (parent : String) (index : Nat) :
    path s!"{parent}/{index}" = place (path parent) index := by
  have : s!"{parent}/{index}".toList = parent.toList ++ '/' :: digits index := by
    simp [String.toList_append, digits, toString, Nat.toList_repr]
  rw [path, this, segments_append _ (by decide) (unmarked_digits index)]
  rfl

theorem path_item (list : String) (index : Nat) :
    path (Evaluate.itemIdentity list index) = item (path list) index := by
  have : (Evaluate.itemIdentity list index).toList = list.toList ++ '#' :: digits index := by
    simp [Evaluate.itemIdentity, String.toList_append, digits, toString, Nat.toList_repr]
  rw [path, this, segments_append _ (by decide) (unmarked_digits index)]
  rfl

theorem path_declared (owner id : String) (h : Unmarked id.toList) :
    path s!"{owner}/{id}" = declared (some owner) id := by
  have : s!"{owner}/{id}".toList = owner.toList ++ '/' :: id.toList := by
    simp [String.toList_append, toString]
  rw [path, this, segments_append _ (by decide) h]
  rfl

end Screens.Identity
