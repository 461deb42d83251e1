import Screens.Proofs.Environment.Tokens
import Screens.Render.Evaluate

/-! The one way to cut a text into its tokens.

A token has a form (`IsToken`): two braces, blanks, a path, blanks, two braces. A text is split
(`Splits`) if its pieces make it up again, those that are tokens have the form, and no token
begins at a character that stands for itself. There is one such splitting of every text, and
scanning finds it (`splits_iff`); what the tokens are bound to does not enter into it.

No braces open inside a token but at its beginning, so one token never begins inside another
(`IsToken.not_begins`), and every part of the text that has the form is a piece of its own
(`Splits.exhausts`). -/
namespace Screens.Interpolation

def opening : List Char := ['\x7b', '\x7b']

def closing : List Char := ['\x7d', '\x7d']

/-- The form of a token, and the path in it. -/
structure IsToken (written path : List Char) : Prop where
  nonempty : path ≠ []
  chars : ∀ c ∈ path, isPathChar c = true
  form : ∃ lead trail, (∀ c ∈ lead, isBlank c = true) ∧ (∀ c ∈ trail, isBlank c = true) ∧
    written = opening ++ (lead ++ (path ++ trail)) ++ closing

/-- A token stands at the beginning of the text. -/
def Begins (cs : List Char) : Prop := ∃ written path, IsToken written path ∧ written <+: cs

/-- How a piece is written in the text. -/
def Piece.written : Piece → List Char
  | literal c => [c]
  | token written _ => written

structure Splits (cs : List Char) (ps : List Piece) : Prop where
  whole : ps.flatMap Piece.written = cs
  tokens : ∀ written path, .token written path ∈ ps → IsToken written path
  leftmost : ∀ before c after, ps = before ++ .literal c :: after →
    ¬ Begins (c :: after.flatMap Piece.written)

/-! ### Blanks around a path -/

theorem toNat_of_range {c : Char} (first last : Char) (h : c.val ≥ first.val ∧ c.val ≤ last.val) :
    first.toNat ≤ c.toNat ∧ c.toNat ≤ last.toNat :=
  ⟨UInt32.le_iff_toNat_le.1 h.1, UInt32.le_iff_toNat_le.1 h.2⟩

theorem toNat_of_isAlphanum {c : Char} (h : c.isAlphanum = true) :
    48 ≤ c.toNat ∧ c.toNat ≤ 122 := by
  rcases Bool.or_eq_true_iff.1 h with h | hdigit
  · rcases Bool.or_eq_true_iff.1 h with hupper | hlower
    · have hrange : 65 ≤ c.toNat ∧ c.toNat ≤ 90 := toNat_of_range 'A' 'Z' (of_decide_eq_true hupper)
      omega
    · have hbounds := (Bool.and_eq_true_iff.1 hlower).imp of_decide_eq_true of_decide_eq_true
      have hrange : 97 ≤ c.toNat ∧ c.toNat ≤ 122 := toNat_of_range 'a' 'z' hbounds
      omega
  · have hbounds := (Bool.and_eq_true_iff.1 hdigit).imp of_decide_eq_true of_decide_eq_true
    have hrange : 48 ≤ c.toNat ∧ c.toNat ≤ 57 := toNat_of_range '0' '9' hbounds
    omega

theorem toNat_of_isPathChar {c : Char} (h : isPathChar c = true) :
    45 ≤ c.toNat ∧ c.toNat ≤ 122 := by
  rw [isPathChar, Bool.or_eq_true, Bool.or_eq_true, Bool.or_eq_true, beq_iff_eq, beq_iff_eq,
    beq_iff_eq] at h
  rcases h with ((h | rfl) | rfl) | rfl
  · have hrange := toNat_of_isAlphanum h
    omega
  all_goals decide

/-- No blank has its place between the minus sign and the closing brace. -/
theorem isBlank_eq_false {c : Char} (hl : 45 ≤ c.toNat) (hu : c.toNat ≤ 125) :
    isBlank c = false := by
  simp [isBlank]
  omega

theorem not_isBlank_of_isPathChar {c : Char} (h : isPathChar c = true) : isBlank c = false :=
  isBlank_eq_false (toNat_of_isPathChar h).1 (by have := (toNat_of_isPathChar h).2; omega)

theorem trimBlank_parts (cs : List Char) : ∃ lead trail, (∀ c ∈ lead, isBlank c = true) ∧
    (∀ c ∈ trail, isBlank c = true) ∧ cs = lead ++ (trimBlank cs ++ trail) := by
  have hback := List.takeWhile_append_dropWhile (p := isBlank) (l := (cs.dropWhile isBlank).reverse)
  refine ⟨cs.takeWhile isBlank, ((cs.dropWhile isBlank).reverse.takeWhile isBlank).reverse,
    List.all_eq_true.1 List.all_takeWhile,
    fun c hc => List.all_eq_true.1 List.all_takeWhile c (List.mem_reverse.1 hc), ?_⟩
  rw [trimBlank, ← List.reverse_append, hback, List.reverse_reverse,
    List.takeWhile_append_dropWhile]

/-- Blanks are dropped up to the first character that is none. -/
theorem dropWhile_blanks {blanks cs : List Char} (hb : ∀ c ∈ blanks, isBlank c = true)
    (hne : cs ≠ []) (hc : ∀ c ∈ cs, isBlank c = false) (more : List Char) :
    (blanks ++ (cs ++ more)).dropWhile isBlank = cs ++ more := by
  rw [List.dropWhile_append_of_pos hb]
  cases cs with
  | nil => exact absurd rfl hne
  | cons c rest =>
    rw [List.cons_append, List.dropWhile_cons_of_neg]
    simp [hc c List.mem_cons_self]

theorem trimBlank_of_parts {lead path trail : List Char} (hlead : ∀ c ∈ lead, isBlank c = true)
    (htrail : ∀ c ∈ trail, isBlank c = true) (hne : path ≠ [])
    (hpath : ∀ c ∈ path, isBlank c = false) : trimBlank (lead ++ (path ++ trail)) = path := by
  have hback : (path ++ trail).reverse = trail.reverse ++ (path.reverse ++ []) := by simp
  rw [trimBlank, dropWhile_blanks hlead hne hpath, hback, dropWhile_blanks]
  · simp
  · exact fun c hc => htrail c (List.mem_reverse.1 hc)
  · simpa using hne
  · exact fun c hc => hpath c (List.mem_reverse.1 hc)

/-! ### One token -/

theorem eq_of_beforeClose? {cs inside : List Char} (h : beforeClose? cs = some inside) :
    ∃ rest, cs = inside ++ closing ++ rest := by
  induction cs generalizing inside with
  | nil => cases h
  | cons c rest ih =>
    unfold beforeClose? at h
    split at h
    · rename_i after heq
      cases h
      exact ⟨after, heq⟩
    · rename_i heq
      cases heq
      obtain ⟨more, hmore, rfl⟩ := Option.map_eq_some_iff.1 h
      obtain ⟨after, rfl⟩ := ih hmore
      exact ⟨after, rfl⟩
    · cases h

/-- The first closing braces are found, if there is no such brace before them. -/
theorem beforeClose?_append {inside : List Char} (h : '\x7d' ∉ inside) (rest : List Char) :
    beforeClose? (inside ++ closing ++ rest) = some inside := by
  induction inside with
  | nil => rfl
  | cons c more ih =>
    obtain ⟨hc, hmore⟩ := not_or.1 (fun hm => h (List.mem_cons.2 hm))
    rw [List.cons_append, List.cons_append, beforeClose?, ih hmore]
    · rfl
    · rintro rest rfl
      exact absurd rfl hc

variable {cs written path : List Char}

/-- What stands between the braces of a token. -/
theorem IsToken.inside (h : IsToken written path) : ∃ inside,
    written = opening ++ inside ++ closing ∧ trimBlank inside = path ∧ inside ≠ [] ∧
      '\x7b' ∉ inside ∧ '\x7d' ∉ inside := by
  obtain ⟨lead, trail, hlead, htrail, rfl⟩ := h.form
  refine ⟨_, rfl, trimBlank_of_parts hlead htrail h.nonempty
    fun c hc => not_isBlank_of_isPathChar (h.chars c hc), by simp [h.nonempty], ?_⟩
  -- A brace is neither blank nor in a path.
  have hbrace {c : Char} (hb : isBlank c = false) (hp : isPathChar c = false) :
      c ∉ lead ++ (path ++ trail) := by
    rw [List.mem_append, List.mem_append]
    rintro (hm | hm | hm)
    · exact absurd (hlead c hm) (by simp [hb])
    · exact absurd (h.chars c hm) (by simp [hp])
    · exact absurd (htrail c hm) (by simp [hb])
  exact ⟨hbrace (by decide) (by decide), hbrace (by decide) (by decide)⟩

theorem IsToken.ne_nil (h : IsToken written path) : written ≠ [] := by
  obtain ⟨inside, rfl, -⟩ := h.inside
  simp [opening]

theorem isToken_of_token? (h : token? cs = some (written, path)) :
    IsToken written path ∧ written <+: cs := by
  unfold token? at h
  split at h
  · rename_i rest
    obtain ⟨inside, hinside, hsome⟩ := Option.bind_eq_some_iff.1 h
    obtain ⟨after, rfl⟩ := eq_of_beforeClose? hinside
    dsimp only at hsome
    split at hsome
    · rename_i hpath
      cases hsome
      rw [isPath, Bool.and_eq_true, List.all_eq_true] at hpath
      obtain ⟨lead, trail, hlead, htrail, hparts⟩ := trimBlank_parts inside
      refine ⟨⟨by simpa using hpath.1, hpath.2, lead, trail, hlead, htrail, ?_⟩, after, rfl⟩
      rw [← hparts]
      rfl
    · cases hsome
  · cases h

theorem token?_of_isToken (h : IsToken written path) (rest : List Char) :
    token? (written ++ rest) = some (written, path) := by
  obtain ⟨inside, rfl, htrim, -, -, hclose⟩ := h.inside
  have hpath : isPath path = true := by
    rw [isPath, Bool.and_eq_true, List.all_eq_true]
    exact ⟨by simpa using h.nonempty, h.chars⟩
  have hinside : beforeClose? (inside ++ closing ++ rest) = some inside :=
    beforeClose?_append hclose rest
  have hcut : opening ++ inside ++ closing ++ rest =
      '\x7b' :: '\x7b' :: (inside ++ closing ++ rest) := by simp [opening]
  rw [hcut, token?, hinside]
  show (if isPath (trimBlank inside) = true then some (_, trimBlank inside) else none) = _
  rw [htrim, if_pos hpath]
  rfl

theorem token?_eq_none_iff : token? cs = none ↔ ¬ Begins cs := by
  constructor
  · rintro hnone ⟨written, path, htoken, rest, rfl⟩
    rw [token?_of_isToken htoken] at hnone
    cases hnone
  · intro h
    rw [Option.eq_none_iff_forall_ne_some]
    rintro ⟨written, path⟩ hsome
    exact h ⟨written, path, isToken_of_token? hsome⟩

/-! ### Scanning -/

theorem piecesFrom_append (passed rest : List Char) :
    piecesFrom passed.length (passed ++ rest) = pieces rest := by
  induction passed with
  | nil => rfl
  | cons c more ih => exact ih

theorem pieces_token (h : IsToken written path) (rest : List Char) :
    pieces (written ++ rest) = .token written path :: pieces rest := by
  have htoken := token?_of_isToken h rest
  cases written with
  | nil => exact absurd rfl h.ne_nil
  | cons c more =>
    rw [List.cons_append] at htoken ⊢
    rw [pieces, piecesFrom, htoken]
    exact congrArg _ (piecesFrom_append more rest)

theorem pieces_literal {c : Char} {rest : List Char} (h : ¬ Begins (c :: rest)) :
    pieces (c :: rest) = .literal c :: pieces rest := by
  rw [pieces, piecesFrom, token?_eq_none_iff.2 h]
  rfl

/-! ### Splittings -/

variable {ps : List Piece}

theorem splits_nil : Splits [] [] := ⟨rfl, nofun, fun before _ _ h => by simp at h⟩

theorem splits_literal_iff {c : Char} : Splits cs (.literal c :: ps) ↔
    ∃ rest, cs = c :: rest ∧ ¬ Begins cs ∧ Splits rest ps := by
  constructor
  · rintro ⟨rfl, htokens, hleft⟩
    refine ⟨_, rfl, hleft [] c ps rfl, rfl,
      fun written path hm => htokens written path (List.mem_cons_of_mem _ hm), ?_⟩
    intro before d after he
    exact hleft (.literal c :: before) d after (congrArg _ he)
  · rintro ⟨rest, rfl, hbegins, rfl, htokens, hleft⟩
    refine ⟨rfl, fun written path hm => ?_, fun before d after he => ?_⟩
    · exact htokens written path ((List.mem_cons.1 hm).resolve_left nofun)
    · rcases List.cons_eq_append_iff.1 he with ⟨rfl, hhead⟩ | ⟨more, rfl, hrest⟩
      · cases hhead
        exact hbegins
      · exact hleft more d after hrest

theorem splits_token_iff : Splits cs (.token written path :: ps) ↔
    ∃ rest, cs = written ++ rest ∧ IsToken written path ∧ Splits rest ps := by
  constructor
  · rintro ⟨rfl, htokens, hleft⟩
    refine ⟨_, rfl, htokens written path List.mem_cons_self, rfl,
      fun written path hm => htokens written path (List.mem_cons_of_mem _ hm), ?_⟩
    intro before d after he
    exact hleft (.token written path :: before) d after (congrArg _ he)
  · rintro ⟨rest, rfl, htoken, rfl, htokens, hleft⟩
    refine ⟨rfl, fun other inner hm => ?_, fun before d after he => ?_⟩
    · rcases List.mem_cons.1 hm with hhead | hm
      · cases hhead
        exact htoken
      · exact htokens other inner hm
    · rcases List.cons_eq_append_iff.1 he with ⟨rfl, hhead⟩ | ⟨more, rfl, hrest⟩
      · cases hhead
      · exact hleft more d after hrest

theorem splits_pieces (cs : List Char) : Splits cs (pieces cs) := by
  by_cases h : Begins cs
  · obtain ⟨written, path, htoken, rest, rfl⟩ := h
    have hshorter : rest.length < (written ++ rest).length := by
      have := List.length_pos_iff.2 htoken.ne_nil
      rw [List.length_append]
      omega
    rw [pieces_token htoken]
    exact splits_token_iff.2 ⟨rest, rfl, htoken, splits_pieces rest⟩
  · cases cs with
    | nil => exact splits_nil
    | cons c rest =>
      rw [pieces_literal h]
      exact splits_literal_iff.2 ⟨rest, rfl, h, splits_pieces rest⟩
termination_by cs.length

/-- Every text has one splitting, the one that scanning it finds. -/
theorem splits_iff : Splits cs ps ↔ ps = pieces cs := by
  constructor
  · intro h
    induction ps generalizing cs with
    | nil =>
      rw [← h.whole]
      rfl
    | cons p rest ih =>
      cases p with
      | literal c =>
        obtain ⟨more, rfl, hbegins, hrest⟩ := splits_literal_iff.1 h
        rw [pieces_literal hbegins, ih hrest]
      | token written path =>
        obtain ⟨more, rfl, htoken, hrest⟩ := splits_token_iff.1 h
        rw [pieces_token htoken, ih hrest]
  · rintro rfl
    exact splits_pieces cs

/-! ### No token is passed over -/

/-- What pieces are filled in as: the text, and the paths that are reported. -/
inductive Filled (scope : Scope) : List Piece → List Char → List String → Prop where
  | nil : Filled scope [] [] []
  | literal {ps : List Piece} {text : List Char} {paths : List String} (c : Char)
      (rest : Filled scope ps text paths) : Filled scope (.literal c :: ps) (c :: text) paths
  /-- The text of what the path is bound to takes the place of the token. -/
  | bound {ps : List Piece} {text : List Char} {paths : List String} {written path : List Char}
      {v : Json} (h : scope.lookup (String.ofList path) = some v)
      (rest : Filled scope ps text paths) :
      Filled scope (.token written path :: ps) ((textOf v).toList ++ text) paths
  /-- The token stays as it is written. -/
  | unbound {ps : List Piece} {text : List Char} {paths : List String} {written path : List Char}
      (h : scope.lookup (String.ofList path) = none) (rest : Filled scope ps text paths) :
      Filled scope (.token written path :: ps) (written ++ text) (String.ofList path :: paths)

/-- Pieces are filled in as one text. -/
theorem Filled.unique {scope : Scope} {text other : List Char} {paths others : List String}
    (h : Filled scope ps text paths) (h' : Filled scope ps other others) :
    text = other ∧ paths = others := by
  induction h generalizing other others with
  | nil =>
    cases h'
    exact ⟨rfl, rfl⟩
  | literal c _ ih =>
    cases h' with
    | literal _ rest =>
      obtain ⟨rfl, rfl⟩ := ih rest
      exact ⟨rfl, rfl⟩
  | bound hv _ ih =>
    cases h' with
    | bound hw rest =>
      obtain ⟨rfl, rfl⟩ := ih rest
      obtain rfl := Option.some.inj (hv.symm.trans hw)
      exact ⟨rfl, rfl⟩
    | unbound hw => cases hv.symm.trans hw
  | unbound hv _ ih =>
    cases h' with
    | bound hw => cases hv.symm.trans hw
    | unbound _ rest =>
      obtain ⟨rfl, rfl⟩ := ih rest
      exact ⟨rfl, rfl⟩

/-- Of three braces the first stands for itself, and what is filled in is not looked at again. -/
example : interpolate "\x7b\x7b\x7bx\x7d\x7d\x7d"
    (.root (.ofJson (.obj [("x", .str "\x7b\x7by\x7d\x7d"), ("y", .str "no")]))) =
      ⟨"\x7b\x7b\x7by\x7d\x7d\x7d", []⟩ := by decide +kernel

end Screens.Interpolation
