import Keyset.Proofs.Outcome
import Keyset.Proofs.Text.Utf8
import Keyset.Settings.Resolve

/-!
# Keyset — what a settings file says

A settings file is read line by line, and each line is trimmed, searched for an equals sign and
taken out of its quotes. What such a file is to say can be written down first, as lines that assign
a quoted value to a name, among lines that say nothing. Reading finds just these assignments again,
whatever blanks stand around the lines and however they end, and values come back with all that
stands between their quotes.

* `EnvFile.Line` — a line as it is written, `EnvFile.Line.Valid` — where it may be written so.
* `EnvFile.assignment?_text` — what is read from a written line.
* `EnvFile.parse_render` — what is read from a written file.
* `EnvFile.get?_eq_some_iff` — the last assignment of a name counts.
* `Sources.assignmentsAt_render` — loading a file that was written.
-/

namespace Keyset

/-! ## Stripping -/

namespace Text

/-- A text neither begins nor ends with a character of a class. -/
structure Unpadded (p : Char → Bool) (cs : List Char) : Prop where
  head : ∀ c ∈ cs.head?, p c = false
  last : ∀ c ∈ cs.getLast?, p c = false

instance (p : Char → Bool) (cs : List Char) : Decidable (Unpadded p cs) :=
  decidable_of_iff (cs.head?.all (!p ·) = true ∧ cs.getLast?.all (!p ·) = true)
    ⟨fun h => ⟨by simpa [Option.all_eq_true] using h.1, by simpa [Option.all_eq_true] using h.2⟩,
      fun h => ⟨by simpa [Option.all_eq_true] using h.head,
        by simpa [Option.all_eq_true] using h.last⟩⟩

theorem dropWhile_append_of_unpadded {p : Char → Bool} {padding cs : List Char}
    (hpadding : ∀ c ∈ padding, p c = true) (hhead : ∀ c ∈ cs.head?, p c = false) :
    (padding ++ cs).dropWhile p = cs := by
  rw [List.dropWhile_append_of_pos hpadding]
  cases cs with
  | nil => rfl
  | cons c rest => rw [List.dropWhile_cons_of_neg (by simp [hhead c rfl])]

/-- Stripping takes away the padding and nothing else. -/
theorem stripBoth_padded {p : Char → Bool} {before cs after : List Char}
    (hbefore : ∀ c ∈ before, p c = true) (hafter : ∀ c ∈ after, p c = true)
    (h : Unpadded p cs) : stripBoth p (before ++ cs ++ after) = cs := by
  -- an empty text has no characters where the stripping could stop, so all is stripped at once
  by_cases hcs : cs = []
  · subst hcs
    have hall : (before ++ [] ++ after).dropWhile p = [] := by
      rw [List.append_nil, List.dropWhile_append_of_pos hbefore]
      exact List.dropWhile_eq_nil_iff.mpr hafter
    rw [stripBoth, hall]
    rfl
  · have hfront : (before ++ cs ++ after).dropWhile p = cs ++ after := by
      rw [List.append_assoc]
      refine dropWhile_append_of_unpadded hbefore ?_
      rw [List.head?_append_of_ne_nil _ hcs]
      exact h.head
    have hback : (after.reverse ++ cs.reverse).dropWhile p = cs.reverse := by
      refine dropWhile_append_of_unpadded (by simpa using hafter) ?_
      rw [List.head?_reverse]
      exact h.last
    rw [stripBoth, hfront, List.reverse_append, hback, List.reverse_reverse]

theorem trim_of_unpadded {cs : List Char} (h : Unpadded isBlank cs) : trim cs = cs := by
  have hnone : ∀ c ∈ ([] : List Char), isBlank c = true := nofun
  simpa [trim] using stripBoth_padded hnone hnone h

/-- Trimming adds no characters. -/
theorem mem_of_mem_trim {cs : List Char} {c : Char} (h : c ∈ trim cs) : c ∈ cs := by
  rw [trim, stripBoth, List.mem_reverse] at h
  exact List.dropWhile_subset _ (List.mem_reverse.mp (List.dropWhile_subset _ h))

/-- What stands first after the blanks is still there after trimming. -/
theorem head?_trim {cs : List Char} {c : Char} (h : (cs.dropWhile isBlank).head? = some c)
    (hc : isBlank c = false) : (trim cs).head? = some c := by
  obtain ⟨rest, hrest⟩ := List.head?_eq_some_iff.mp h
  rw [trim, stripBoth, hrest, List.reverse_cons, List.dropWhile_append]
  split
  · simp [hc]
  · rw [List.reverse_append]
    rfl

end Text

/-! ## Lines -/

namespace EnvFile

/-- The characters that end lines. -/
def isBreak (c : Char) : Bool := c = '\n' || c = '\r'

/-- Characters that end no line. -/
def NoBreak (cs : List Char) : Prop := ∀ c ∈ cs, isBreak c = false

instance (cs : List Char) : Decidable (NoBreak cs) := List.decidableBAll _ cs

/-- The ways in which a line may end. -/
def lineEnds : List (List Char) := [['\n'], ['\r'], ['\r', '\n']]

theorem lines_ne_nil (cs : List Char) : lines cs ≠ [] := by
  fun_cases lines cs <;> simp_all

theorem lines_cons {c : Char} (h : isBreak c = false) (rest : List Char) :
    lines (c :: rest) = (lines rest).modifyHead (c :: ·) := by
  simp only [isBreak, Bool.or_eq_false_iff, decide_eq_false_iff_not] at h
  rw [lines.eq_3 c rest fun _ hreturn _ => h.2 hreturn, if_neg (by simp [h.1, h.2])]
  cases hrest : lines rest with
  | nil => exact absurd hrest (lines_ne_nil rest)
  | cons line others => rfl

/-- Characters that end no line belong to the line that follows them. -/
theorem lines_append {cs : List Char} (h : NoBreak cs) (rest : List Char) :
    lines (cs ++ rest) = (lines rest).modifyHead (cs ++ ·) := by
  induction cs with
  | nil => cases hrest : lines rest <;> simp [hrest]
  | cons c cs ih =>
    rw [List.cons_append, lines_cons (h c List.mem_cons_self),
      ih fun d hd => h d (List.mem_cons_of_mem c hd), List.modifyHead_modifyHead]
    rfl

/-- A line that ends says what it says, and then what follows says what it says. A carriage return
and a newline in a row might be one end or two, with nothing between them. -/
theorem filterMap_lines {cs lineEnd : List Char} (h : NoBreak cs)
    (hend : lineEnd ∈ lineEnds) (rest : List Char) :
    (lines (cs ++ lineEnd ++ rest)).filterMap assignment? =
      (assignment? cs).toList ++ (lines rest).filterMap assignment? := by
  obtain ⟨others, hlines, hothers⟩ : ∃ others, lines (lineEnd ++ rest) = [] :: others ∧
      others.filterMap assignment? = (lines rest).filterMap assignment? := by
    simp only [lineEnds, List.mem_cons, List.not_mem_nil, or_false] at hend
    rcases hend with rfl | rfl | rfl
    · exact ⟨lines rest, rfl, rfl⟩
    · -- with a newline behind it, the return ends the line together with it
      by_cases hnext : ∃ rest', rest = '\n' :: rest'
      · obtain ⟨rest', rfl⟩ := hnext
        exact ⟨lines rest', rfl, rfl⟩
      · refine ⟨lines rest, ?_, rfl⟩
        rw [List.singleton_append, lines.eq_3 _ _ fun rest' _ hrest => hnext ⟨rest', hrest⟩]
        rfl
    · exact ⟨lines rest, rfl, rfl⟩
  rw [List.append_assoc, lines_append h, hlines, List.modifyHead_cons, List.append_nil,
    List.filterMap_cons, hothers]
  cases assignment? cs <;> rfl

/-! ## Written lines -/

/-- A name that can be written: its line is no comment, it ends at the equals sign, and trimming
leaves it as it is. -/
structure IsName (name : String) : Prop where
  unpadded : Text.Unpadded Text.isBlank name.toList
  no_equals : '=' ∉ name.toList
  no_break : NoBreak name.toList
  no_comment : name.toList.head? ≠ some '#'

instance (name : String) : Decidable (IsName name) :=
  decidable_of_iff (Text.Unpadded Text.isBlank name.toList ∧ '=' ∉ name.toList ∧
      NoBreak name.toList ∧ name.toList.head? ≠ some '#')
    ⟨fun h => ⟨h.1, h.2.1, h.2.2.1, h.2.2.2⟩,
      fun h => ⟨h.unpadded, h.no_equals, h.no_break, h.no_comment⟩⟩

/-- A value that can be written between quotes: it has none at its own ends. -/
structure IsQuotable (value : String) : Prop where
  unpadded : Text.Unpadded isQuote value.toList
  no_break : NoBreak value.toList

instance (value : String) : Decidable (IsQuotable value) :=
  decidable_of_iff (Text.Unpadded isQuote value.toList ∧ NoBreak value.toList)
    ⟨fun h => ⟨h.1, h.2⟩, fun h => ⟨h.unpadded, h.no_break⟩⟩

/-- Characters around a line that do not count. -/
def IsMargin (cs : List Char) : Prop := ∀ c ∈ cs, Text.isBlank c = true ∧ isBreak c = false

instance (cs : List Char) : Decidable (IsMargin cs) := List.decidableBAll _ cs

/-- Lines that assign nothing. -/
inductive IsRemark : List Char → Prop where
  | blank {cs : List Char} (h : ∀ c ∈ cs, Text.isBlank c = true) : IsRemark cs
  | comment {before rest : List Char} (h : ∀ c ∈ before, Text.isBlank c = true) :
      IsRemark (before ++ '#' :: rest)
  | bare {cs : List Char} (h : '=' ∉ cs) : IsRemark cs

theorem isRemark_iff {cs : List Char} :
    IsRemark cs ↔ '=' ∉ cs ∨ (cs.dropWhile Text.isBlank).head? = some '#' := by
  constructor
  · intro h
    cases h with
    | blank h => exact Or.inl fun heq => absurd (h _ heq) (by decide)
    | comment h =>
      right
      rw [List.dropWhile_append_of_pos h]
      rfl
    | bare h => exact Or.inl h
  · rintro (h | h)
    · exact .bare h
    · obtain ⟨rest, hrest⟩ := List.head?_eq_some_iff.mp h
      rw [← List.takeWhile_append_dropWhile (p := Text.isBlank) (l := cs), hrest]
      exact .comment fun c hc => List.mem_takeWhile_imp hc

instance (cs : List Char) : Decidable (IsRemark cs) := decidable_of_iff _ isRemark_iff.symm

/-- A line as it is written: the assignment of a quoted value, with margins, or a remark. -/
inductive Line where
  | assignment (before : List Char) (name : String) (quote : Char) (value : String)
      (after : List Char)
  | remark (cs : List Char)

/-- An assignment without its margins. -/
def core (name : String) (quote : Char) (value : String) : List Char :=
  name.toList ++ '=' :: (quote :: value.toList ++ [quote])

namespace Line

/-- The characters of a line. -/
def text : Line → List Char
  | .assignment before name quote value after => before ++ core name quote value ++ after
  | .remark cs => cs

/-- What a line is to assign. -/
def assigned? : Line → Option (String × String)
  | .assignment _ name _ value _ => some (name, value)
  | .remark _ => none

/-- Lines that can be written. -/
def Valid : Line → Prop
  | .assignment before name quote value after => IsMargin before ∧ IsName name ∧
      isQuote quote = true ∧ IsQuotable value ∧ IsMargin after
  | .remark cs => IsRemark cs ∧ NoBreak cs

instance : (l : Line) → Decidable l.Valid
  | .assignment before name quote value after => inferInstanceAs (Decidable (IsMargin before ∧
      IsName name ∧ isQuote quote = true ∧ IsQuotable value ∧ IsMargin after))
  | .remark cs => inferInstanceAs (Decidable (IsRemark cs ∧ NoBreak cs))

theorem noBreak_text {l : Line} (h : l.Valid) : NoBreak l.text := by
  intro c hc
  cases l with
  | assignment before name quote value after =>
    obtain ⟨hbefore, hname, hquote, hvalue, hafter⟩ := h
    have hquoteBreak : isBreak quote = false := by
      rcases Bool.or_eq_true_iff.mp hquote with h | h <;>
      · rw [of_decide_eq_true h]
        rfl
    simp only [text, core, List.mem_append, List.mem_cons, List.not_mem_nil, or_false] at hc
    -- the parts of an assignment in their order: none of them has a line break
    rcases hc with (h | h | rfl | (rfl | h) | rfl) | h
    · exact (hbefore c h).2
    · exact hname.no_break c h
    · rfl
    · exact hquoteBreak
    · exact hvalue.no_break c h
    · exact hquoteBreak
    · exact (hafter c h).2
  | remark cs => exact h.2 c hc

end Line

theorem isBlank_of_isQuote {c : Char} (h : isQuote c = true) : Text.isBlank c = false := by
  rcases Bool.or_eq_true_iff.mp h with h | h <;>
  · rw [of_decide_eq_true h]
    rfl

/-- A quoted value comes out of its quotes as it is. -/
theorem stripBoth_quoted {quote : Char} (hquote : isQuote quote = true) {value : String}
    (hvalue : IsQuotable value) :
    Text.stripBoth isQuote (Text.trim (quote :: value.toList ++ [quote])) = value.toList := by
  have hunpadded : Text.Unpadded Text.isBlank (quote :: value.toList ++ [quote]) :=
    ⟨by simpa using isBlank_of_isQuote hquote, by
      rw [List.getLast?_concat]
      simpa using isBlank_of_isQuote hquote⟩
  have hquotes : ∀ c ∈ [quote], isQuote c = true := by simpa using hquote
  rw [Text.trim_of_unpadded hunpadded]
  exact Text.stripBoth_padded hquotes hquotes hvalue.unpadded

theorem assignment?_remark {cs : List Char} (h : IsRemark cs) : assignment? cs = none := by
  rcases isRemark_iff.mp h with hbare | hcomment
  · have hall : (Text.trim cs).takeWhile (· ≠ '=') = Text.trim cs := by
      refine List.takeWhile_eq_self_iff.mpr fun c hc => decide_eq_true fun heq => ?_
      exact hbare (heq ▸ Text.mem_of_mem_trim hc)
    simp only [assignment?, hall, List.drop_length]
    split <;> rfl
  · simp only [assignment?]
    rw [if_pos (Text.head?_trim hcomment (by decide))]

section Core

variable {name : String} (hname : IsName name) {quote : Char} (hquote : isQuote quote = true)
  (value : String)

/-- An assignment begins with the name, or with the equals sign if that is empty. -/
theorem eq_or_mem_of_head?_core {c : Char} (h : (core name quote value).head? = some c) :
    c = '=' ∨ c ∈ name.toList.head? := by
  rw [core, List.head?_append, List.head?_cons] at h
  cases hfirst : name.toList.head? with
  | none =>
    rw [hfirst] at h
    exact Or.inl (Option.some.inj h).symm
  | some d =>
    rw [hfirst] at h
    exact Or.inr h

include hname

theorem head?_core_ne : (core name quote value).head? ≠ some '#' := by
  intro hhash
  rcases eq_or_mem_of_head?_core value hhash with heq | hfirst
  · cases heq
  · exact hname.no_comment hfirst

theorem takeWhile_core : (core name quote value).takeWhile (· ≠ '=') = name.toList := by
  rw [core, List.takeWhile_append_of_pos]
  · simp
  · intro c hc
    exact decide_eq_true fun heq => hname.no_equals (heq ▸ hc)

include hquote

theorem unpadded_core : Text.Unpadded Text.isBlank (core name quote value) := by
  constructor
  · intro c hc
    rcases eq_or_mem_of_head?_core value hc with rfl | hfirst
    · rfl
    · exact hname.unpadded.head c hfirst
  · rw [core, ← List.cons_append, ← List.append_assoc, List.getLast?_concat]
    simpa using isBlank_of_isQuote hquote

end Core

/-- **What is read from a written line** is what it was to assign. -/
theorem assignment?_text {l : Line} (h : l.Valid) : assignment? l.text = l.assigned? := by
  cases l with
  | remark cs => exact assignment?_remark h.1
  | assignment before name quote value after =>
    obtain ⟨hbefore, hname, hquote, hvalue, hafter⟩ := h
    have htrim : Text.trim (before ++ core name quote value ++ after) = core name quote value :=
      Text.stripBoth_padded (fun c hc => (hbefore c hc).1) (fun c hc => (hafter c hc).1)
        (unpadded_core hname hquote value)
    rw [Line.text, Line.assigned?, assignment?]
    dsimp only
    -- the margins go first, and so the first equals sign is the one behind the name
    rw [htrim, if_neg (head?_core_ne hname value), takeWhile_core hname value, core, List.drop_left]
    dsimp only
    rw [stripBoth_quoted hquote hvalue, Text.trim_of_unpadded hname.unpadded, String.ofList_toList,
      String.ofList_toList]

/-! ## Written files -/

/-- The text of a file: lines with their ends, and a last line that needs none. -/
def render (written : List (Line × List Char)) (last : Line) : List Char :=
  written.flatMap (fun w => w.1.text ++ w.2) ++ last.text

/-- What a file is to assign, in order. -/
def assigned (written : List (Line × List Char)) (last : Line) : List (String × String) :=
  (written.map (·.1) ++ [last]).filterMap Line.assigned?

/-- **What is read from a written file** is what its lines were to assign. -/
theorem parse_render {written : List (Line × List Char)} {last : Line}
    (hends : ∀ w ∈ written, w.2 ∈ lineEnds) (hlines : ∀ w ∈ written, w.1.Valid)
    (hlast : last.Valid) :
    parse (String.ofList (render written last)) = assigned written last := by
  rw [parse, String.toList_ofList]
  induction written with
  | nil =>
    -- the last line has no line end, and is the only line of its text
    have hline : lines last.text = [last.text] := by
      rw [← List.append_nil last.text, lines_append (Line.noBreak_text hlast)]
      rfl
    simp only [render, assigned, List.flatMap_nil, List.nil_append, List.map_nil, hline,
      List.filterMap_cons, List.filterMap_nil, assignment?_text hlast]
  | cons w rest ih =>
    have hw := hlines w List.mem_cons_self
    -- a line up to its end, and then the lines of what is left
    have hrender : render (w :: rest) last = w.1.text ++ w.2 ++ render rest last := by
      simp [render]
    rw [hrender, filterMap_lines (Line.noBreak_text hw) (hends w List.mem_cons_self), assignment?_text hw,
      ih (fun v hv => hends v (List.mem_cons_of_mem w hv))
        fun v hv => hlines v (List.mem_cons_of_mem w hv)]
    rw [assigned, assigned, List.map_cons, List.cons_append, List.filterMap_cons]
    cases w.1.assigned? <;> rfl

/-! ## Values of names -/

/-- The last assignment of a name counts. -/
theorem get?_eq_some_iff {assignments : List (String × String)} {name value : String} :
    get? assignments name = some value ↔ ∃ before after,
      assignments = before ++ (name, value) :: after ∧ ∀ a ∈ after, a.1 ≠ name := by
  rw [get?, Option.map_eq_some_iff]
  constructor
  · rintro ⟨⟨name', value'⟩, hfind, rfl⟩
    -- the search is from the end, so that what it passes over comes after
    obtain ⟨hname, before, after, hsplit, hother⟩ := List.find?_eq_some_iff_append.mp hfind
    obtain rfl : name' = name := by simpa using hname
    refine ⟨after.reverse, before.reverse, ?_, fun a ha => ?_⟩
    · rw [← List.reverse_reverse assignments, hsplit]
      simp
    · simpa using hother a (List.mem_reverse.mp ha)
  · rintro ⟨before, after, rfl, hother⟩
    refine ⟨(name, value), List.find?_eq_some_iff_append.mpr ⟨by simp, after.reverse,
      before.reverse, by simp, fun a ha => ?_⟩, rfl⟩
    simpa using hother a (List.mem_reverse.mp ha)

theorem get?_eq_none_iff {assignments : List (String × String)} {name : String} :
    get? assignments name = none ↔ ∀ a ∈ assignments, a.1 ≠ name := by
  simp [get?]

end EnvFile

/-! ## Loading a file -/

namespace Sources

open EnvFile

theorem assignmentsAt_of_decode {s : Sources} {path text : String} {encoding : Value}
    {e : Encoding} {content : List UInt8} (hfile : Files.find s.files path = .file content)
    (hencoding : encoding? encoding = .ok (some e)) (hcontent : e.decode content = .ok text) :
    s.assignmentsAt path encoding = .ok (parse text) := by
  rw [assignmentsAt, hfile]
  simp only [hencoding, except_ok_bind, fileText, hcontent]
  rfl

theorem decode_utf8_encode (text : String) :
    Encoding.utf8.decode (Utf8.encode text) = .ok text := by
  simp [Encoding.decode, Encoding.decodeChars, Utf8.decode?_encode, Encoding.exactly, Except.map]

/-- A file in the working directory is found under its name. -/
theorem find_env (content : List UInt8) :
    Files.find [(".env", content)] ".env" = .file content := by
  have hsplit : ".env".splitOn "/" = [".env"] := by
    rw [String.splitOn, if_neg (by decide)]
    -- one character after the other is no slash
    iterate 4 rw [String.splitOnAux, if_neg (by decide), if_neg (by decide)]
    rw [String.splitOnAux, if_pos (by decide)]
    decide
  have hparts : Files.pathParts ".env" = [".env"] := by
    rw [Files.pathParts, hsplit]
    decide
  have hsize : ".env".utf8ByteSize = 4 := by decide
  simp [Files.find, hparts, hsize, Files.pathLimit, Files.walk, Files.content?, Files.nameLimit]

/-- **Loading a file that was written** gives what its lines were to assign, in their order: the
value of a name is that of its last assignment, and no other names have values. -/
theorem assignmentsAt_render {s : Sources} {path : String} {encoding : Value}
    {e : Encoding} {content : List UInt8} {written : List (Line × List Char)} {last : Line}
    (hfile : Files.find s.files path = .file content)
    (hencoding : encoding? encoding = .ok (some e))
    (hcontent : e.decode content = .ok (String.ofList (render written last)))
    (hends : ∀ w ∈ written, w.2 ∈ lineEnds) (hlines : ∀ w ∈ written, w.1.Valid)
    (hlast : last.Valid) :
    s.assignmentsAt path encoding = .ok (assigned written last) ∧
    ∀ name, (∀ value, get? (assigned written last) name = some value ↔ ∃ before after,
        assigned written last = before ++ (name, value) :: after ∧ ∀ a ∈ after, a.1 ≠ name) ∧
      (get? (assigned written last) name = none ↔ ∀ a ∈ assigned written last, a.1 ≠ name) := by
  refine ⟨?_, fun name => ⟨fun value => get?_eq_some_iff, get?_eq_none_iff⟩⟩
  rw [← parse_render hends hlines hlast]
  exact assignmentsAt_of_decode hfile hencoding hcontent

/-- Lines with all kinds of ends: a comment, an assignment with margins, a blank line, and two more
assignments, of which one repeats a name. -/
def writtenLines : List (Line × List Char) :=
  [(.remark "# KEY='b'".toList, ['\n']),
    (.assignment [' '] "KEY" '"' "a=b#" ['\t'], ['\r', '\n']),
    (.remark [' '], ['\n']),
    (.assignment [] "OTHER" '\'' " it's " [], ['\r']),
    (.assignment [] "KEY" '"' "" [], ['\n'])]

/-- `writtenLines`, with a word behind them, in the file of the settings. -/
def writtenFile : List UInt8 :=
  Utf8.encode (String.ofList (render writtenLines (.remark "word".toList)))

/-- A working directory with this file. -/
def writtenSources : Sources := { files := [(".env", writtenFile)] }

/-- The values of `writtenFile`. -/
theorem assignmentsAt_render_writtenFile :
    Files.find writtenSources.files ".env" = .file writtenFile ∧
    encoding? (.str "utf-8") = .ok (some .utf8) ∧
    Encoding.utf8.decode writtenFile =
      .ok (String.ofList (render writtenLines (.remark "word".toList))) ∧
    (∀ w ∈ writtenLines, w.2 ∈ lineEnds) ∧ (∀ w ∈ writtenLines, w.1.Valid) ∧
    Line.Valid (.remark "word".toList) ∧
    ∃ assignments, writtenSources.assignmentsAt ".env" (.str "utf-8") = .ok assignments ∧
      assignments = [("KEY", "a=b#"), ("OTHER", " it's "), ("KEY", "")] ∧
      get? assignments "KEY" = some "" ∧ get? assignments "key" = none := by
  have hfile : Files.find writtenSources.files ".env" = .file writtenFile := find_env _
  have hencoding : encoding? (.str "utf-8") = .ok (some .utf8) := by cbv
  have hcontent := decode_utf8_encode (String.ofList (render writtenLines (.remark "word".toList)))
  have hends : ∀ w ∈ writtenLines, w.2 ∈ lineEnds := by decide
  have hlines : ∀ w ∈ writtenLines, w.1.Valid := by decide +kernel
  have hlast : Line.Valid (.remark "word".toList) := by decide +kernel
  obtain ⟨hassigned, hvalues⟩ :=
    assignmentsAt_render hfile hencoding hcontent hends hlines hlast
  refine ⟨hfile, hencoding, hcontent, hends, hlines, hlast, _, hassigned, rfl, ?_, ?_⟩
  · exact ((hvalues "KEY").1 "").mpr ⟨[("KEY", "a=b#"), ("OTHER", " it's ")], [], rfl, nofun⟩
  · exact (hvalues "key").2.mpr (by decide)

end Sources

end Keyset
