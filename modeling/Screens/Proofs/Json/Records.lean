import Mathlib.Data.List.Nodup
import Screens.Proofs.Json.Skipping

/-! Records as functions of values.

Where a text is a value, whether a record can be read from it, and which, is settled by the value
alone (`readRecord_of_value`): by the members that are parts of the record, if it is an object, and
by the items, if it is an array. The others are passed over. -/
namespace Screens.Json

open Reader

variable {bytes rest : Bytes}

namespace Reader

variable {α β : Type} {p : Reader α}

theorem toOption_bind (p : Reader α) (f : α → Reader β) (bytes : Bytes) :
    ((p >>= f) bytes).toOption = (p bytes).toOption.bind fun r => (f r.1 r.2).toOption := by
  show ((p bytes >>= fun r => f r.1 r.2)).toOption = _
  cases p bytes <;> rfl

theorem toOption_eq_some {e : Except Fault α} {a : α} : e.toOption = some a ↔ e = .ok a := by
  cases e with
  | error fault => exact ⟨nofun, nofun⟩
  | ok b => exact ⟨fun h => congrArg _ (Option.some.inj h), fun h => congrArg _ (Except.ok.inj h)⟩

/-- Where nothing but spaces is left, all that was read counts. -/
theorem whole_toOption {found : Option α} (h : (p bytes).toOption = found.map (·, rest))
    (hrest : rest.dropWhile isSpace = []) : ((whole p).run' bytes).toOption = found := by
  refine Option.ext fun a => ?_
  rw [toOption_eq_some, whole_ok]
  constructor
  · rintro ⟨last, hread, -⟩
    rw [hread] at h
    obtain ⟨b, hb, hpair⟩ := Option.map_eq_some_iff.1 h.symm
    cases hpair
    exact hb
  · rintro rfl
    exact ⟨rest, toOption_eq_some.1 h, hrest⟩

end Reader

/-! ### One part -/

/-- A value of the kind. -/
def PartKind.Holds : PartKind → Json → Prop
  | .text, v => ∃ s, v = .str s
  | .object, v => ∃ fields, v = .obj fields
  | .any, _ => True

instance : (kind : PartKind) → (v : Json) → Decidable (kind.Holds v)
  | .any, _ => isTrue trivial
  | .text, .str s => isTrue ⟨s, rfl⟩
  | .object, .obj fields => isTrue ⟨fields, rfl⟩
  | .text, .null | .text, .bool _ | .text, .num _ | .text, .arr _ | .text, .obj _ => isFalse nofun
  | .object, .null | .object, .bool _ | .object, .num _ | .object, .arr _ | .object, .str _ =>
    isFalse nofun

theorem admits_of_goesOn {n room : Nat} {first : UInt8} {v : Json}
    (h : GoesOn n room bytes first (v, rest)) (kind : PartKind) :
    kind.admits first = true ↔ kind.Holds v := by
  cases kind with
  | any => exact iff_of_true rfl trivial
  | text =>
    show (first == 34) = true ↔ ∃ s, v = .str s
    cases h with
    | emptyArr | arr | emptyObj | obj => simp
    | leaf h =>
      rw [beq_iff_eq]
      constructor
      · rintro rfl
        obtain ⟨s, _, -, hpure⟩ := ok_of_bind h
        cases hpure
        exact ⟨s, rfl⟩
      · rintro ⟨s, rfl⟩
        exact (of_leaf h).2 s rfl
  | object =>
    show (first == 123) = true ↔ ∃ fields, v = .obj fields
    cases h with
    | emptyArr | arr | emptyObj | obj => simp
    | leaf h =>
      refine iff_of_false (by simpa using (not_bracket_of_leaf h).2) ?_
      rintro ⟨fields, rfl⟩
      cases (of_leaf h).1

theorem mismatch_toOption {α : Type} (fuel : Nat) (first : UInt8) (bytes : Bytes) :
    ((mismatch fuel first : Reader α) bytes).toOption = none := by
  unfold mismatch
  dsimp only
  split
  · rw [toOption_bind]
    cases ((discard (leaf fuel first) : Reader Unit) bytes).toOption <;> rfl
  · rfl

/-- A value is taken as a part exactly if it is of the kind. -/
theorem partValue_of_value {fuel room : Nat} {v : Json}
    (h : value fuel room bytes = .ok (v, rest)) (kind : PartKind) :
    (partValue kind fuel room bytes).toOption =
      if kind.Holds v then some (v.canonical, rest) else none := by
  obtain ⟨m, first, inner, -, hfirst, hon⟩ := goesOn_of_value h
  have hadmits := admits_of_goesOn hon kind
  unfold partValue
  rw [bind_ok hfirst]
  dsimp only
  by_cases hkind : kind.Holds v
  · have hback : putBack first inner = .ok ((), first :: inner) := rfl
    rw [if_neg (by simp [hadmits.2 hkind]), if_pos hkind, bind_ok hback,
      bind_ok ((value_putBack hfirst).trans h)]
    rfl
  · rw [if_pos (by simpa using mt hadmits.1 hkind), if_neg hkind, toOption_bind, mismatch_toOption]
    rfl

/-! ### All parts -/

/-- The parts among the members of an object, in the order they come in, after those that were
found before. There are none if a part comes twice or is not of its kind. -/
def gather (parts : List Part) : (got fields : List (String × Json)) → Option (List (String × Json))
  | got, [] => some got
  | got, (k, v) :: fields =>
    match parts.find? (·.name == k) with
    | none => gather parts got fields
    | some part =>
      if (got.lookup k).isSome ∨ ¬ part.kind.Holds v then none
      else gather parts (got ++ [(k, v.canonical)]) fields

/-- The items of an array as parts, each of its kind. -/
def align : List Part → List Json → Option (List (String × Json))
  | _, [] => some []
  | [], _ :: _ => none
  | part :: parts, v :: items =>
    if part.kind.Holds v then (align parts items).map ((part.name, v.canonical) :: ·) else none

theorem recordMembers_of_members {parts : List Part} {n given room : Nat}
    {fields : List (String × Json)} (h : members n given bytes = .ok (fields, rest)) {fuel : Nat}
    (hfuel : 2 * bytes.length < fuel) (hroom : min given bytes.length ≤ room)
    (got : List (String × Json)) : (recordMembers parts room fuel got bytes).toOption =
      (gather parts got fields).map (·, rest) := by
  induction n generalizing fuel bytes fields got with
  | zero => cases h
  | succ n ih =>
    obtain ⟨fuel, rfl⟩ : ∃ k, fuel = k + 1 := ⟨fuel - 1, by omega⟩
    cases membersGoOn_of_members h with
    | @member k afterKey hk afterColon hcolon v afterValue hv more afterMark hmark others _ hothers =>
      have hname := key_consumes _ _ _ _ hk
      have hpoint := expect_consumes _ _ _ _ hcolon
      have htaken := (consumes_all n).1 given _ _ _ hv
      have hmore := moreItems_consumes _ _ _ _ hmark
      have hvalue := (settled_all n).1 hv
      -- What follows the member is gathered after what was found up to it.
      have hafter (got : List (String × Json)) : ((moreItems 125 >>= fun more =>
          if more = true then recordMembers parts room fuel got else pure got) afterValue).toOption =
            (gather parts got others).map (·, rest) := by
        rw [bind_ok hmark]
        cases more with
        | true => exact ih hothers (by omega) (by omega) got
        | false =>
          cases hothers
          rfl
      unfold recordMembers
      rw [bind_ok (key_settled hk (by omega)).1]
      dsimp only
      unfold gather
      cases parts.find? (·.name == k) with
      | none =>
        dsimp only
        rw [bind_ok hcolon, bind_ok (hvalue.skips fuel (by omega))]
        exact hafter got
      | some part =>
        dsimp only
        by_cases htwice : (got.lookup k).isSome = true
        · rw [if_pos htwice, if_pos (.inl htwice)]
          rfl
        · have hpart := partValue_of_value (hvalue.reads fuel room (by omega) (by omega)) part.kind
          rw [if_neg htwice, bind_ok hcolon, toOption_bind, hpart]
          by_cases hkind : part.kind.Holds v
          · rw [if_pos hkind, if_neg (by simp [htwice, hkind])]
            exact hafter _
          · rw [if_neg hkind, if_pos (.inr hkind)]
            rfl

theorem recordItems_of_values {n given room fuel : Nat} {items : List Json}
    (h : values n given bytes = .ok (items, rest)) (hfuel : 2 * bytes.length ≤ fuel)
    (hroom : min given bytes.length ≤ room) (parts : List Part) :
    (recordItems fuel room parts bytes).toOption = (align parts items).map (·, rest) := by
  induction n generalizing bytes items parts with
  | zero => cases h
  | succ n ih =>
    cases itemsGoOn_of_values h with
    | @item v afterValue hv more afterMark hmark others _ hothers =>
      have htaken := (consumes_all n).1 given _ _ _ hv
      have hmore := moreItems_consumes _ _ _ _ hmark
      have hvalue := ((settled_all n).1 hv).reads fuel room (by omega) hroom
      cases parts with
      | nil => rfl
      | cons part parts =>
        unfold recordItems align
        rw [toOption_bind, partValue_of_value hvalue part.kind]
        by_cases hkind : part.kind.Holds v
        · rw [if_pos hkind, if_pos hkind]
          dsimp only [Option.bind_some]
          rw [bind_ok hmark]
          cases more with
          | true =>
            rw [if_pos rfl, toOption_bind, ih hothers (by omega) (by omega)]
            cases align parts others <;> rfl
          | false =>
            cases hothers
            rw [align]
            rfl
        · rw [if_neg hkind, if_neg hkind]
          rfl

/-! ### Whole records -/

/-- The parts of a record that a value is. -/
def gathered (parts : List Part) : Json → Option (List (String × Json))
  | obj fields => gather parts [] fields
  | arr items => align parts items
  | _ => none

/-- Whether a text that is a value can be read as a record, and what is found then, depends on the
value only. The levels the value was read with do not matter. -/
theorem readRecord_of_value {given room : Nat} {v : Json} (h : readWritten given bytes = .ok v)
    (hroom : min given bytes.length ≤ room) (parts : List Part) :
    (readRecord parts room bytes).toOption =
      (v.gathered parts).filter fun found => !lacks parts found := by
  obtain ⟨rest, hvalue, hrest⟩ := whole_ok.1 h
  refine whole_toOption ?_ hrest
  obtain ⟨n, first, inner, -, hfirst, hon⟩ := goesOn_of_value hvalue
  have hmark := nextMark_consumes _ _ _ hfirst
  have hget : (get : Reader Bytes) bytes = .ok (bytes, bytes) := rfl
  -- What was found is the record, if nothing that has to be there is missing.
  have hall (found : Option (List (String × Json))) : ((found.map (·, rest)).bind fun r =>
      ((if lacks parts r.1 = true then throw .mismatched >>= fun (_ : PUnit) => pure r.1
        else pure r.1 : Reader (List (String × Json))) r.2).toOption) =
      (found.filter fun got => !lacks parts got).map (·, rest) := by
    cases found with
    | none => rfl
    | some got =>
      rw [Option.map_some, Option.bind_some, Option.filter_some]
      cases lacks parts got <;> rfl
  unfold record?
  rw [bind_ok hget, bind_ok hfirst]
  cases hon with
  | emptyArr _ htakes =>
    rw [if_neg (by decide), if_pos rfl, bind_ok htakes, gathered, align]
    exact hall (some [])
  | arr _ htakes hitems =>
    have hinner := takes_consumes _ _ _ _ htakes
    rw [if_neg (by decide), if_pos rfl, bind_ok htakes, if_neg Bool.false_ne_true, toOption_bind,
      recordItems_of_values hitems (by unfold steps; omega) (by omega)]
    exact hall _
  | emptyObj _ htakes =>
    rw [if_pos rfl, bind_ok htakes]
    exact hall (some [])
  | obj _ htakes hfields =>
    have hinner := takes_consumes _ _ _ _ htakes
    rw [if_pos rfl, bind_ok htakes, if_neg Bool.false_ne_true, toOption_bind,
      recordMembers_of_members hfields (by unfold steps; omega) (by omega)]
    exact hall _
  | leaf hleaf =>
    obtain ⟨harr, hobj⟩ := not_bracket_of_leaf hleaf
    rw [if_neg hobj, if_neg harr, toOption_bind, mismatch_toOption]
    have hnone : v.gathered parts = none := by
      have := (of_leaf hleaf).1
      cases v <;> first | rfl | cases this
    rw [hnone]
    rfl

/-! ### Which parts are found -/

def isPart (parts : List Part) (key : String) : Bool := (parts.find? (·.name == key)).isSome

/-- The members that are parts of the record. -/
def known (parts : List Part) (fields : List (String × Json)) : List (String × Json) :=
  fields.filter fun m => isPart parts m.1

/-- The parts of an object are its known members, each of its kind, if none comes twice. -/
theorem gather_eq_some {parts : List Part} {got fields found : List (String × Json)} :
    gather parts got fields = some found ↔
      (∀ m ∈ fields, ∀ part, parts.find? (·.name == m.1) = some part → part.kind.Holds m.2) ∧
      ((known parts fields).map (·.1)).Nodup ∧
      (∀ key ∈ (known parts fields).map (·.1), key ∉ got.map (·.1)) ∧
      got ++ canonicalFields (known parts fields) = found := by
  induction fields generalizing got with
  | nil => simp [gather, known, canonicalFields]
  | cons m fields ih =>
    obtain ⟨k, v⟩ := m
    unfold gather
    cases hpart : parts.find? (·.name == k) with
    | none =>
      have hknown : known parts ((k, v) :: fields) = known parts fields := by simp [known, isPart, hpart]
      simp only [ih, hknown, List.forall_mem_cons, hpart]
      simp
    | some part =>
      have hknown : known parts ((k, v) :: fields) = (k, v) :: known parts fields := by
        simp [known, isPart, hpart]
      have htwice : (got.lookup k).isSome = true ↔ k ∈ got.map (·.1) := Lookup.isSome_iff_mem
      dsimp only
      by_cases hfails : (got.lookup k).isSome = true ∨ ¬ part.kind.Holds v
      · rw [if_pos hfails]
        refine iff_of_false (by simp) ?_
        rintro ⟨hholds, -, hnew, -⟩
        rcases hfails with htaken | hkind
        · exact hnew k (by simp [hknown]) (htwice.1 htaken)
        · exact hkind (hholds _ List.mem_cons_self part hpart)
      · obtain ⟨hnew, hkind⟩ := not_or.1 hfails
        rw [htwice] at hnew
        have hhead : ∀ other, parts.find? (·.name == k) = some other → other.kind.Holds v := by
          intro other hother
          obtain rfl := Option.some.inj (hpart.symm.trans hother)
          exact Decidable.not_not.1 hkind
        rw [if_neg hfails, ih, hknown]
        simp only [List.map_cons, List.nodup_cons, List.forall_mem_cons, List.map_append,
          List.map_nil, List.mem_append, List.mem_singleton, canonicalFields, List.append_assoc,
          List.singleton_append]
        grind

theorem isPart_iff {parts : List Part} {key : String} :
    isPart parts key = true ↔ key ∈ parts.map (·.name) := by
  simp [isPart]

theorem lookup_known {parts : List Part} {key : String} (h : key ∈ parts.map (·.name))
    (fields : List (String × Json)) : (known parts fields).lookup key = fields.lookup key := by
  induction fields with
  | nil => rfl
  | cons m fields ih =>
    obtain ⟨k, v⟩ := m
    by_cases heq : key = k
    · subst heq
      have hhead : known parts ((key, v) :: fields) = (key, v) :: known parts fields :=
        List.filter_cons_of_pos (isPart_iff.2 h)
      rw [hhead, List.lookup_cons_self, List.lookup_cons_self]
    · rw [List.lookup_cons, beq_eq_false_iff_ne.2 heq, ← ih, known, List.filter_cons]
      split
      · rw [List.lookup_cons, beq_eq_false_iff_ne.2 heq]
        rfl
      · rfl

/-- No known member comes twice if each part comes at most once. -/
theorem nodup_known {parts : List Part} {fields : List (String × Json)} :
    ((known parts fields).map (·.1)).Nodup ↔
      ∀ key ∈ parts.map (·.name), (fields.map (·.1)).count key ≤ 1 := by
  have hkeys : (known parts fields).map (·.1) = (fields.map (·.1)).filter (isPart parts) := by
    rw [List.filter_map]
    rfl
  rw [hkeys, List.nodup_iff_count_le_one]
  constructor
  · intro h key hkey
    rw [← List.count_filter (isPart_iff.2 hkey)]
    exact h key
  · intro h key
    by_cases hkey : key ∈ parts.map (·.name)
    · rw [List.count_filter (isPart_iff.2 hkey)]
      exact h key hkey
    · have hnot : key ∉ (fields.map (·.1)).filter (isPart parts) := fun hmem =>
        hkey (isPart_iff.1 (List.mem_filter.1 hmem).2)
      rw [List.count_eq_zero_of_not_mem hnot]
      exact Nat.zero_le 1

theorem align_eq_some {parts : List Part} {items : List Json} {found : List (String × Json)} :
    align parts items = some found ↔ items.length ≤ parts.length ∧
      (∀ m ∈ parts.zip items, m.1.kind.Holds m.2) ∧
      canonicalFields ((parts.map (·.name)).zip items) = found := by
  induction parts generalizing items found with
  | nil => cases items <;> simp [align, canonicalFields]
  | cons part parts ih =>
    cases items with
    | nil => simp [align, canonicalFields]
    | cons v items =>
      unfold align
      by_cases hkind : part.kind.Holds v
      · rw [if_pos hkind]
        simp only [Option.map_eq_some_iff, ih]
        simp [canonicalFields, hkind, and_assoc]
      · simp [hkind]

/-- The members of an object that fit a record with these parts: each is a part, of its
kind. -/
def Fits (parts : List Part) (fields : List (String × Json)) : Prop :=
  ∀ m ∈ fields, ∃ part, parts.find? (·.name == m.1) = some part ∧ part.kind.Holds m.2

end Screens.Json
