import Keyset.Proofs.Filter.Clauses

/-!
# Keyset — patterns of literal text

A compiler that escapes gives patterns in which the text of the operand stands for itself. Such a
pattern can be read in one way only as a sequence of tokens, each a character without a meaning in
patterns or a backslash with a character that is neither letter nor digit, and these tokens denote
the characters of the text. So nothing in a text is taken for an alternative, a repetition, a
class, an anchor or a group, and different texts have different patterns.

* `Pattern.Token` — a character of a pattern, with its backslash.
* `Pattern.Reads` — a pattern as a sequence of literal tokens; `Pattern.Reads.unique`.
* `Pattern.reads_escape` — an escaped text.
* `Compiler.Emits` — the pattern of a clause; `Compiler.emits_literal` says what it is.
-/

namespace Keyset

/-! ## Literal patterns -/

namespace Pattern

/-- The characters with a meaning in patterns. -/
def metacharacters : List Char :=
  ['.', '^', '$', '*', '+', '?', '\x7b', '\x7d', '[', ']', '\\', '|', '(', ')']

/-- A character of a pattern: as it is, or after a backslash. -/
inductive Token where
  | plain (c : Char)
  | escaped (c : Char)
  deriving DecidableEq, Repr

namespace Token

/-- How a token is written. -/
def text : Token → List Char
  | .plain c => [c]
  | .escaped c => ['\\', c]

/-- The character of a token. -/
def char : Token → Char
  | .plain c => c
  | .escaped c => c

/-- Whether a token stands for its character: a plain one has no meaning of its own, and an escaped
one is no letter and no digit, so that its backslash takes a meaning away and gives none. -/
def IsLiteral : Token → Prop
  | .plain c => c ∉ metacharacters
  | .escaped c => c.isAlphanum = false

/-- The token of a character of a text. -/
def ofChar (c : Char) : Token := if special.contains c then .escaped c else .plain c

end Token

/-- A sequence of literal tokens that is written as a pattern. -/
structure Reads (tokens : List Token) (pattern : String) : Prop where
  literal : ∀ token ∈ tokens, token.IsLiteral
  text : tokens.flatMap Token.text = pattern.toList

/-- No literal token is a backslash alone. -/
theorem Token.IsLiteral.plain_ne {c : Char} (h : (plain c).IsLiteral) : c ≠ '\\' := by
  rintro rfl
  exact h (by decide)

/-- A sequence of literal tokens is determined by what is written. -/
theorem eq_of_flatMap_text_eq {tokens others : List Token}
    (hTokens : ∀ token ∈ tokens, token.IsLiteral) (hOthers : ∀ token ∈ others, token.IsLiteral)
    (h : tokens.flatMap Token.text = others.flatMap Token.text) : tokens = others := by
  induction tokens generalizing others with
  | nil =>
    cases others with
    | nil => rfl
    | cons other rest => cases other <;> simp [Token.text] at h
  | cons token tokens ih =>
    cases others with
    | nil => cases token <;> simp [Token.text] at h
    | cons other others =>
      obtain ⟨htoken, htokens⟩ := List.forall_mem_cons.mp hTokens
      obtain ⟨hother, hothers⟩ := List.forall_mem_cons.mp hOthers
      -- the first character says how long the first token is
      have hfirst : token = other ∧
          tokens.flatMap Token.text = others.flatMap Token.text := by
        cases token with
        | plain c =>
          cases other with
          | plain d => simpa [Token.text] using h
          | escaped d =>
            have hback : c = '\\' := by simpa [Token.text] using congrArg List.head? h
            exact absurd hback htoken.plain_ne
        | escaped c =>
          cases other with
          | plain d =>
            have hback : d = '\\' := by simpa [Token.text, eq_comm] using congrArg List.head? h
            exact absurd hback hother.plain_ne
          | escaped d => simpa [Token.text] using h
      rw [hfirst.1, ih htokens hothers hfirst.2]

/-- A pattern is read in one way. -/
theorem Reads.unique {tokens others : List Token} {pattern : String}
    (hTokens : Reads tokens pattern) (hOthers : Reads others pattern) : tokens = others :=
  eq_of_flatMap_text_eq hTokens.literal hOthers.literal (hTokens.text.trans hOthers.text.symm)

/-! ## Escaped text -/

/-- Every character with a meaning is escaped. -/
theorem special_of_metacharacter : ∀ c ∈ metacharacters, special.contains c = true :=
  List.all_eq_true.mp (by decide +kernel)

/-- What is escaped is ASCII, and neither letter nor digit. -/
theorem isAlphanum_of_special : ∀ c ∈ special, c.isAlphanum = false ∧ c.toNat < 128 := by
  have hall : special.all (fun c => !c.isAlphanum && decide (c.toNat < 128)) = true := by
    decide +kernel
  simpa using hall

theorem Token.ofChar_isLiteral (c : Char) : (ofChar c).IsLiteral := by
  rw [ofChar]
  split
  · next h => exact (isAlphanum_of_special c (List.contains_iff_mem.mp h)).1
  · next h => exact fun hmeta => h (special_of_metacharacter c hmeta)

@[simp]
theorem Token.char_ofChar (c : Char) : (ofChar c).char = c := by
  rw [ofChar]
  split <;> rfl

@[simp]
theorem Token.text_ofChar (c : Char) : (ofChar c).text = escapeChar c := by
  rw [ofChar, escapeChar]
  split <;> rfl

theorem Token.ascii_of_escaped {c d : Char} (h : ofChar c = .escaped d) : d.toNat < 128 := by
  rw [ofChar] at h
  split at h
  · next hspecial =>
    cases h
    exact (isAlphanum_of_special c (List.contains_iff_mem.mp hspecial)).2
  · cases h

/-- An escaped text is read as the tokens of its characters. -/
theorem reads_escape (s : String) : Reads (s.toList.map Token.ofChar) (escape s) where
  literal := by
    intro token htoken
    obtain ⟨c, -, rfl⟩ := List.mem_map.mp htoken
    exact Token.ofChar_isLiteral c
  text := by
    rw [escape, String.toList_ofList, List.flatMap_map]
    simp only [Token.text_ofChar]

/-- The tokens of a text denote the text. -/
theorem map_char_ofChar (cs : List Char) : (cs.map Token.ofChar).map Token.char = cs := by
  simp [Function.comp_def]

/-- Different texts have different patterns. -/
theorem escape_injective : Function.Injective escape := by
  intro s t h
  have htokens := (reads_escape s).unique (h ▸ reads_escape t)
  rw [← String.toList_inj, ← map_char_ofChar s.toList, htokens, map_char_ofChar]

end Pattern

/-! ## Patterns of clauses -/

/-- What stands around the text in the pattern of an operator: word boundaries around a word. -/
def MatchMode.surround : MatchMode → String → String
  | .containsWord, body => "\\b" ++ body ++ "\\b"
  | _, body => body

theorem MatchMode.surround_injective (mode : MatchMode) : Function.Injective mode.surround := by
  intro s t h
  cases mode with
  | containsWord =>
    rw [surround, surround, ← String.toList_inj] at h
    simp only [String.toList_append, List.append_assoc, List.append_cancel_left_eq,
      List.append_cancel_right_eq] at h
    exact String.toList_inj.mp h
  | strictWord => exact h
  | containsPart => exact h

namespace Compiler

/-- The condition of a clause asks its field for a pattern. -/
def Emits (c : Compiler) (clause : Clause) (pattern : String) : Prop :=
  ∃ condition, c.Compiles clause condition ∧ condition.toValue =
    .mapping [(clause.field, .object [("$regex", .str pattern), ("$options", .str "i")])]

/-- The pattern of a clause spells the text of its operand. -/
theorem emits_iff {c : Compiler} {name : String} {operator operand : Value} {mode : MatchMode}
    (hMode : MatchMode.ofValue? operator = some mode) (hPattern : mode ≠ .strictWord) {s : String}
    (hText : operand.display = .ok s) {pattern : String} :
    c.Emits (.pattern (.str name) operator operand) pattern ↔
      pattern = mode.surround (c.spell s) := by
  -- a mode other than the strict one spells its operand and surrounds it
  have hcompiles : c.Compiles (.pattern (.str name) operator operand)
      (.matchesPattern (.str name) (mode.surround (c.spell s))) := by
    have hliteral : c.literal operand = .ok (c.spell s) := by rw [literal, hText]; rfl
    rw [Compiles, compileClause]
    cases mode with
    | strictWord => exact absurd rfl hPattern
    | containsWord => simp only [hMode, operatorCondition, hliteral]; rfl
    | containsPart => simp only [hMode, operatorCondition, hliteral]; rfl
  constructor
  · -- a clause compiles to one condition, and its pattern is the one text in it
    rintro ⟨condition, hcondition, hvalue⟩
    obtain rfl := Option.some.inj (Except.ok.inj
      (congrArg Outcome.result (hcondition.symm.trans hcompiles)))
    have hpattern : mode.surround (c.spell s) = pattern := by
      simpa [Condition.toValue, Condition.field, Condition.body, Clause.field, Value.object]
        using hvalue
    exact hpattern.symm
  · rintro rfl
    exact ⟨_, hcompiles, rfl⟩

/-- **Literal patterns.** With escaping, an operand of `CONTAINS_PART` or `CONTAINS_WORD` with the
text `s` gives one pattern, for a word between word boundaries. There is one reading of it as
literal tokens, which denote `s`; all that is escaped in it is ASCII. The same operator gives this
pattern to no other text. -/
theorem emits_literal {c : Compiler} (hEscape : c.escape = true) (name : String)
    {operator operand : Value} {mode : MatchMode} (hMode : MatchMode.ofValue? operator = some mode)
    (hPattern : mode ≠ .strictWord) {s : String} (hText : operand.display = .ok s) :
    ∃ body tokens,
      (∀ pattern, c.Emits (.pattern (.str name) operator operand) pattern ↔
        pattern = mode.surround body) ∧
      Pattern.Reads tokens body ∧ tokens.map Pattern.Token.char = s.toList ∧
      (∀ ch, .escaped ch ∈ tokens → ch.toNat < 128) ∧
      (∀ others, Pattern.Reads others body → others = tokens) ∧
      ∀ (otherName : String) (other : Value) (t : String), other.display = .ok t →
        c.Emits (.pattern (.str otherName) operator other) (mode.surround body) → t = s := by
  have hspell (t : String) : c.spell t = Pattern.escape t := if_pos hEscape
  have hreads := Pattern.reads_escape s
  refine ⟨Pattern.escape s, s.toList.map Pattern.Token.ofChar, fun pattern => ?_, hreads,
    Pattern.map_char_ofChar _, ?_, fun others hothers => hothers.unique hreads, ?_⟩
  · rw [emits_iff hMode hPattern hText, hspell]
  · intro ch hch
    obtain ⟨d, -, hd⟩ := List.mem_map.mp hch
    exact Pattern.Token.ascii_of_escaped hd
  · -- neither surrounding nor escaping loses anything of the text
    intro otherName other t ht hemits
    rw [emits_iff hMode hPattern ht, hspell] at hemits
    exact (Pattern.escape_injective (mode.surround_injective hemits)).symm

/-- A word with a dot and two backslashes, one of them at its end. -/
theorem emits_literal_backslash :
    ({ escape := true } : Compiler).Emits
      (.pattern (.str "path") (.str "CONTAINS_WORD") (.str "a.\\b\\"))
      "\\ba\\.\\\\b\\\\\\b" ∧
    ∃ tokens, Pattern.Reads tokens "a\\.\\\\b\\\\" ∧
      tokens.map Pattern.Token.char = ['a', '.', '\\', 'b', '\\'] ∧
      ∀ others, Pattern.Reads others "a\\.\\\\b\\\\" → others = tokens := by
  have hemits : ({ escape := true } : Compiler).Emits
      (.pattern (.str "path") (.str "CONTAINS_WORD") (.str "a.\\b\\"))
      "\\ba\\.\\\\b\\\\\\b" := ⟨_, rfl, rfl⟩
  have hmode : MatchMode.ofValue? (.str "CONTAINS_WORD") = some .containsWord := rfl
  have htext : (Value.str "a.\\b\\").display = .ok "a.\\b\\" := rfl
  obtain ⟨body, tokens, hpattern, hreads, hchars, -, hunique, -⟩ :=
    emits_literal (c := { escape := true }) rfl "path" hmode nofun htext
  obtain rfl : "a\\.\\\\b\\\\" = body :=
    MatchMode.containsWord.surround_injective ((hpattern _).mp hemits)
  exact ⟨hemits, tokens, hreads, hchars, hunique⟩

end Compiler

end Keyset
