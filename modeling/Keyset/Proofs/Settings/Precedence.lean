import Keyset.Proofs.Settings.Annotation
import Keyset.Proofs.Settings.Declared
import Keyset.Proofs.Settings.EnvFile

/-!
# Keyset — which source wins

A setting may be mentioned by an argument, by an environment variable, by the settings file and by
its default, and several of them at once. Of those that mention it the highest wins, and only then
is the value converted. So what a lower source says is neither seen nor converted: it changes no
value, and it makes nothing fail, however little it could be converted itself.

* `Loading` — a chain of classes, its sources, and a settings file that could be read.
* `Loading.Mentions` — what each source says of a setting, `Loading.Wins` — the highest that says
  anything.
* `Loading.wins_winning` — the value that is taken is that of the source that wins.
* `Loading.AgreesFor` — two loadings differ, for a setting, below its winner only.
* `Loading.precedence` — the values of all settings, and when there are none.
-/

namespace Keyset

/-- Where the value of a setting may come from. -/
inductive Source where
  | argument
  | environment
  | file
  | default
  deriving DecidableEq, Repr

/-- The place of a source in the order of precedence, from the highest on. -/
def Source.rank : Source → Nat
  | .argument => 0
  | .environment => 1
  | .file => 2
  | .default => 3

/-- The sources in their order. -/
def Source.all : List Source := [.argument, .environment, .file, .default]

theorem Source.pairwise_all : Source.all.Pairwise fun a b => a.rank < b.rank := by decide

theorem Source.mem_all (a : Source) : a ∈ Source.all := by cases a <;> decide

theorem Source.rank_inj {a b : Source} (h : a.rank = b.rank) : a = b := by
  cases a <;> cases b <;> first | rfl | nomatch h

/-- Settings that are loaded from a settings file that can be read. The name of the settings
themselves is no name of an argument. -/
structure Loading where
  chain : List SettingsClass
  sources : Sources
  /-- The assignments of the settings file. -/
  assigned : List (String × String)
  arguments_named : Declarations.reservedArgument ∉ sources.arguments.map (·.1)
  file_read : sources.assignments (Declarations.ofChain chain).file = .ok assigned

namespace Loading

/-- What the loading ends in. -/
def result (r : Loading) : Except Failure (List (String × Value)) :=
  (Declarations.ofChain r.chain).load r.sources

/-- The classes declare a public setting. -/
structure Has (r : Loading) (x : Setting) : Prop where
  declared : Declarations.Declares (Declarations.declarations r.chain) x
  isPublic : Declarations.isPublic x.name = true

/-- A source mentions a setting, with a value. -/
inductive Mentions (r : Loading) (x : Setting) : Source → Value → Prop where
  | argument {v : Value} (h : r.sources.arguments.lookup x.name = some v) : Mentions r x .argument v
  | environment {t : String} (h : r.sources.environment.lookup (Text.upper x.name) = some t) :
      Mentions r x .environment (.str t)
  /-- The last assignment in the file counts. -/
  | file {t : String} {before after : List (String × String)}
      (h : r.assigned = before ++ (Text.upper x.name, t) :: after)
      (hlast : ∀ a ∈ after, a.1 ≠ Text.upper x.name) : Mentions r x .file (.str t)
  | default : Mentions r x .default x.default

/-- A source wins if it mentions the setting and no higher source does. -/
structure Wins (r : Loading) (x : Setting) (source : Source) (v : Value) : Prop where
  mentions : r.Mentions x source v
  highest : ∀ other, other.rank < source.rank → ∀ w, ¬ r.Mentions x other w

/-! ## The value that is taken -/

section Mentions

variable {r : Loading} {x : Setting} {v : Value}

/-- What a source says of a setting, computed. -/
def mention? (r : Loading) (x : Setting) : Source → Option Value
  | .argument => r.sources.arguments.lookup x.name
  | .environment => (r.sources.environment.lookup (Text.upper x.name)).map .str
  | .file => (EnvFile.get? r.assigned (Text.upper x.name)).map .str
  | .default => some x.default

theorem mentions_iff {source : Source} : r.Mentions x source v ↔ r.mention? x source = some v := by
  constructor
  · rintro (h | h | ⟨h, hlast⟩ | _)
    · exact h
    · exact congrArg (Option.map Value.str) h
    · exact congrArg (Option.map Value.str) (EnvFile.get?_eq_some_iff.mpr ⟨_, _, h, hlast⟩)
    · rfl
  · intro h
    cases source with
    | argument => exact .argument h
    | environment =>
      obtain ⟨t, ht, rfl⟩ := Option.map_eq_some_iff.mp h
      exact .environment ht
    | file =>
      obtain ⟨t, ht, rfl⟩ := Option.map_eq_some_iff.mp h
      -- of several assignments in a file the last one counts
      obtain ⟨before, after, hassigned, hlast⟩ := EnvFile.get?_eq_some_iff.mp ht
      exact .file hassigned hlast
    | default =>
      obtain rfl : x.default = v := Option.some.inj h
      exact .default

theorem not_mentions_iff {source : Source} :
    (∀ w, ¬ r.Mentions x source w) ↔ r.mention? x source = none := by
  simp only [mentions_iff, Option.eq_none_iff_forall_ne_some, ne_eq]

/-- Only one source wins, with one value. -/
theorem Wins.unique {source source' : Source} {v' : Value} (h : r.Wins x source v)
    (h' : r.Wins x source' v') : source = source' ∧ v = v' := by
  rcases Nat.lt_trichotomy source.rank source'.rank with hlt | heq | hgt
  · exact absurd h.mentions (h'.highest source hlt v)
  · obtain rfl := Source.rank_inj heq
    have hvalues : some v = some v' :=
      (mentions_iff.mp h.mentions).symm.trans (mentions_iff.mp h'.mentions)
    exact ⟨rfl, Option.some.inj hvalues⟩
  · exact absurd h'.mentions (h.highest source' hgt v')

theorem find?_map_eq_lookup {β : Type} (l : List (String × β)) (name : String) :
    (l.find? (·.1 == name)).map (·.2) = l.lookup name := by
  induction l with
  | nil => rfl
  | cons a rest ih =>
    rw [List.find?_cons, List.lookup_cons, BEq.comm]
    split <;> simp_all

/-- The sources are asked in their order. -/
theorem findSome?_mention? (r : Loading) (x : Setting) :
    Source.all.findSome? (r.mention? x) = some (r.sources.winning r.assigned x) := by
  simp only [Source.all, List.findSome?_cons, mention?, ← find?_map_eq_lookup, Sources.winning,
    Sources.variableName]
  cases r.sources.arguments.find? (·.1 == x.name) with
  | some a => rfl
  | none =>
    cases r.sources.environment.find? (·.1 == Text.upper x.name) with
    | some e => rfl
    | none => cases EnvFile.get? r.assigned (Text.upper x.name) <;> rfl

/-- **The value that is taken** is that of the source that wins. -/
theorem wins_winning (r : Loading) (x : Setting) :
    ∃ source, r.Wins x source (r.sources.winning r.assigned x) := by
  obtain ⟨higher, source, lower, hall, hmention, hhigher⟩ :=
    List.findSome?_eq_some_iff.mp (findSome?_mention? r x)
  refine ⟨source, mentions_iff.mpr hmention, fun other hother => ?_⟩
  refine not_mentions_iff.mpr (hhigher other ?_)
  -- what ranks above the source stands before it, among those that mention nothing
  have hmem : other ∈ higher ++ source :: lower := hall ▸ Source.mem_all other
  have hsorted := hall ▸ Source.pairwise_all
  rcases List.mem_append.mp hmem with hbefore | hbehind
  · exact hbefore
  · have hle : source.rank ≤ other.rank := by
      rcases List.mem_cons.mp hbehind with rfl | hlower
      · exact Nat.le_refl _
      · exact Nat.le_of_lt (List.rel_of_pairwise_cons (List.pairwise_append.mp hsorted).2.1 hlower)
    omega

theorem Wins.eq_winning {source : Source} (h : r.Wins x source v) :
    r.sources.winning r.assigned x = v := by
  obtain ⟨source', hwinning⟩ := wins_winning r x
  exact (hwinning.unique h).2

end Mentions

end Loading

/-! ## Values of settings -/

namespace Declarations

variable {s : Sources} {assigned : List (String × String)} {settings : List Setting}
  {result : List (String × Value)}

theorem values_cons_eq_ok {x : Setting} :
    values s assigned (x :: settings) = .ok result ↔
      ∃ v others, x.type.Converts (s.winning assigned x) v ∧
        values s assigned settings = .ok others ∧ result = (x.name, v) :: others := by
  simp only [values, except_bind_eq_ok, except_pure, Except.ok.injEq, Annotation.convert_eq_ok]
  constructor
  · rintro ⟨v, hv, others, hothers, rfl⟩
    exact ⟨v, others, hv, hothers, rfl⟩
  · rintro ⟨v, others, hv, hothers, rfl⟩
    exact ⟨v, hv, others, hothers, rfl⟩

theorem names_values (h : values s assigned settings = .ok result) :
    result.map (·.1) = settings.map (·.name) := by
  induction settings generalizing result with
  | nil =>
    cases h
    rfl
  | cons x rest ih =>
    obtain ⟨v, others, -, hothers, rfl⟩ := values_cons_eq_ok.mp h
    rw [List.map_cons, List.map_cons, ih hothers]

theorem exists_mem_values (h : values s assigned settings = .ok result) {x : Setting}
    (hx : x ∈ settings) :
    ∃ v, x.type.Converts (s.winning assigned x) v ∧ (x.name, v) ∈ result := by
  induction settings generalizing result with
  | nil => cases hx
  | cons y rest ih =>
    obtain ⟨v, others, hv, hothers, rfl⟩ := values_cons_eq_ok.mp h
    rcases List.mem_cons.mp hx with rfl | hrest
    · exact ⟨v, hv, List.mem_cons_self⟩
    · obtain ⟨w, hw, hmem⟩ := ih hothers hrest
      exact ⟨w, hw, List.mem_cons_of_mem _ hmem⟩

/-- There are values if every winning value can be converted. -/
theorem exists_values_iff : (∃ result, values s assigned settings = .ok result) ↔
    ∀ x ∈ settings, ∃ v, x.type.Converts (s.winning assigned x) v := by
  constructor
  · rintro ⟨result, h⟩ x hx
    obtain ⟨v, hv, -⟩ := exists_mem_values h hx
    exact ⟨v, hv⟩
  · intro h
    induction settings with
    | nil => exact ⟨[], rfl⟩
    | cons x rest ih =>
      obtain ⟨v, hv⟩ := h x List.mem_cons_self
      obtain ⟨others, hothers⟩ := ih fun y hy => h y (List.mem_cons_of_mem x hy)
      exact ⟨_, values_cons_eq_ok.mpr ⟨v, others, hv, hothers, rfl⟩⟩

end Declarations

/-! ## Loading -/

namespace Loading

section Result

variable {r : Loading} {x : Setting} {values : List (String × Value)}

/-- The public settings of a loading, in the order of their declarations. -/
def settings (r : Loading) : List Setting :=
  (Declarations.ofChain r.chain).settings.filter fun x => Declarations.isPublic x.name

theorem mem_settings : x ∈ r.settings ↔ r.Has x := by
  rw [settings, List.mem_filter, Declarations.mem_ofChain]
  exact ⟨fun h => ⟨h.1, h.2⟩, fun h => ⟨h.declared, h.isPublic⟩⟩

theorem nodup_names_settings (r : Loading) : (r.settings.map (·.name)).Nodup :=
  (Declarations.nodup_names r.chain).sublist (List.filter_sublist.map _)

theorem result_eq_ok :
    r.result = .ok values ↔ Declarations.values r.sources r.assigned r.settings = .ok values := by
  have harguments : r.sources.arguments.any (·.1 == Declarations.reservedArgument) = false := by
    refine List.any_eq_false.mpr fun a ha hname => r.arguments_named ?_
    exact List.mem_map.mpr ⟨a, ha, eq_of_beq hname⟩
  have hload : r.result = (Declarations.values r.sources r.assigned r.settings).mapError .value := by
    simp only [result, Declarations.load, harguments, r.file_read, except_ok_bind]
    rfl
  rw [hload]
  cases Declarations.values r.sources r.assigned r.settings <;> simp [Except.mapError]

/-- A loading has the values of its public settings and no others. -/
theorem mem_names_iff (h : r.result = .ok values) {name : String} :
    name ∈ values.map (·.1) ↔ ∃ x, r.Has x ∧ x.name = name := by
  rw [Declarations.names_values (result_eq_ok.mp h), List.mem_map]
  simp only [mem_settings]

theorem field?_of_has (h : r.result = .ok values) (hx : r.Has x) :
    ∃ v, x.type.Converts (r.sources.winning r.assigned x) v ∧
      Value.field? values x.name = some v := by
  have hvalues := result_eq_ok.mp h
  obtain ⟨v, hv, hmem⟩ := Declarations.exists_mem_values hvalues (mem_settings.mpr hx)
  have hnames : (values.map (·.1)).Nodup :=
    Declarations.names_values hvalues ▸ nodup_names_settings r
  exact ⟨v, hv, congrArg (Option.map Prod.snd) (find?_of_mem hnames hmem)⟩

theorem exists_result_iff : (∃ values, r.result = .ok values) ↔
    ∀ x, r.Has x → ∃ v, x.type.Converts (r.sources.winning r.assigned x) v := by
  simp only [result_eq_ok, Declarations.exists_values_iff, mem_settings]

/-- A loading fails at a text that wins and stands for nothing. -/
theorem fails_iff : (∃ f, r.result = .error f) ↔
    ∃ x, r.Has x ∧ ∃ source t, r.Wins x source (.str t) ∧ ∀ v, ¬ x.type.Reads t v := by
  have hfails : (∃ f, r.result = .error f) ↔ ¬ ∃ values, r.result = .ok values := by
    cases r.result <;> simp
  rw [hfails, exists_result_iff]
  simp only [not_forall, not_exists, exists_prop]
  refine exists_congr fun x => and_congr_right fun _ => ?_
  refine Annotation.convert_fails_iff.trans ?_
  constructor
  · rintro ⟨t, ht, hnone⟩
    obtain ⟨source, hwins⟩ := wins_winning r x
    exact ⟨source, t, ht ▸ hwins, hnone⟩
  · rintro ⟨source, t, hwins, hnone⟩
    exact ⟨t, hwins.eq_winning, hnone⟩

end Result

/-! ## Two loadings -/

/-- For a setting that is declared alike in two loadings, these differ at most in sources below the
one that wins in the first. -/
structure AgreesFor (r r' : Loading) (x x' : Setting) : Prop where
  name : x'.name = x.name
  type : x'.type = x.type
  mentions : ∀ source u, r.Wins x source u → ∀ other, other.rank ≤ source.rank →
    ∀ w, r'.Mentions x' other w ↔ r.Mentions x other w

section AgreesFor

variable {r r' : Loading} {x x' : Setting}

theorem AgreesFor.wins (h : r.AgreesFor r' x x') {source : Source} {u : Value}
    (hwins : r.Wins x source u) : r'.Wins x' source u := by
  have hmentions := h.mentions source u hwins
  refine ⟨(hmentions source (Nat.le_refl _) u).mpr hwins.mentions, fun other hother w hw => ?_⟩
  exact hwins.highest other hother w ((hmentions other (Nat.le_of_lt hother) w).mp hw)

/-- What is below the winner is not looked at. -/
theorem AgreesFor.winning_eq (h : r.AgreesFor r' x x') :
    r'.sources.winning r'.assigned x' = r.sources.winning r.assigned x := by
  obtain ⟨source, hwins⟩ := wins_winning r x
  exact (h.wins hwins).eq_winning

/-- Agreement down to the winner, computed. -/
theorem agreesFor_of_mention? (source : Source) {u : Value} (hname : x'.name = x.name)
    (htype : x'.type = x.type) (hwinner : r.mention? x source = some u)
    (hhigher : ∀ other, other.rank < source.rank → r.mention? x other = none)
    (hsame : ∀ other, other.rank ≤ source.rank → r'.mention? x' other = r.mention? x other) :
    r.AgreesFor r' x x' := by
  have hwins : r.Wins x source u :=
    ⟨mentions_iff.mpr hwinner, fun other hother => not_mentions_iff.mpr (hhigher other hother)⟩
  refine ⟨hname, htype, fun source' u' hwins' other hother w => ?_⟩
  -- no other source can have won in the first
  obtain ⟨rfl, -⟩ := hwins.unique hwins'
  rw [mentions_iff, mentions_iff, hsame other hother]

end AgreesFor

/-- **Precedence of sources.** The values of a loading are those of its public settings, each read
from the highest source that mentions it; there are none only if a text that wins cannot be
converted. An optional type converts as the type itself. Where two loadings differ below the winner
only, they have the same value, and if they do so for all settings, what is below makes the second
one fail at nothing. -/
theorem precedence (r : Loading) :
    (∀ values, r.result = .ok values →
      (∀ name, name ∈ values.map (·.1) ↔ ∃ x, r.Has x ∧ x.name = name) ∧
      ∀ x, r.Has x → ∃ source u v, r.Wins x source u ∧ x.type.Converts u v ∧
        Value.field? values x.name = some v) ∧
    ((∃ f, r.result = .error f) ↔
      ∃ x, r.Has x ∧ ∃ source t, r.Wins x source (.str t) ∧ ∀ v, ¬ x.type.Reads t v) ∧
    (∀ (a : Annotation) t v, (.ofMembers [a, .nothing] : Annotation).Reads t v ↔ a.Reads t v) ∧
    (∀ r' x x' values values', r.Has x → r'.Has x' → r.AgreesFor r' x x' →
      r.result = .ok values → r'.result = .ok values' →
      Value.field? values' x.name = Value.field? values x.name) ∧
    ∀ r' values, r.result = .ok values →
      (∀ x', r'.Has x' → ∃ x, r.Has x ∧ r.AgreesFor r' x x') → ∃ values', r'.result = .ok values' := by
  refine ⟨fun values h => ⟨fun name => mem_names_iff h, fun x hx => ?_⟩, fails_iff,
    fun a t v => Annotation.reads_optional, ?_, ?_⟩
  · obtain ⟨v, hv, hfield⟩ := field?_of_has h hx
    obtain ⟨source, hwins⟩ := wins_winning r x
    exact ⟨source, _, v, hwins, hv, hfield⟩
  · intro r' x x' values values' hx hx' hagrees h h'
    obtain ⟨v, hv, hfield⟩ := field?_of_has h hx
    obtain ⟨v', hv', hfield'⟩ := field?_of_has h' hx'
    -- both values are converted from one winner under one annotation
    rw [hagrees.winning_eq, hagrees.type, ← Annotation.convert_eq_ok] at hv'
    rw [← Annotation.convert_eq_ok, hv', Except.ok.injEq] at hv
    rw [hfield, ← hagrees.name, hfield', hv]
  · intro r' values h hagree
    refine exists_result_iff.mpr fun x' hx' => ?_
    obtain ⟨x, hx, hagrees⟩ := hagree x' hx'
    rw [hagrees.winning_eq, hagrees.type]
    exact exists_result_iff.mp ⟨values, h⟩ x hx

/-- A class whose settings are read from a file as well. -/
def pagesClass (limit label : Value) : SettingsClass :=
  { declarations := [⟨"limit", .integer, some limit⟩, ⟨"label", .other, some label⟩,
      ⟨"strict", .boolean, none⟩]
    file := some (.file (.str ".env") .null) }

/-- A class that inherits from it and makes the limit optional. -/
def feedClass : SettingsClass :=
  { declarations := [⟨"limit", Annotation.ofMembers [.integer, .nothing], none⟩] }

/-- The settings of these classes, with a label of null as an argument. -/
def feed (limit label : Value) (environment : List (String × String)) (text : String) :
    Loading where
  chain := [pagesClass limit label, feedClass]
  sources := {
    arguments := [("label", .null)]
    environment := environment
    files := [(".env", Utf8.encode text)] }
  assigned := EnvFile.parse text
  arguments_named := by simp [Declarations.reservedArgument]
  file_read := Sources.assignmentsAt_of_decode (Sources.find_env _) rfl
    (Sources.decode_utf8_encode text)

/-- All sources say what they should. -/
def plainFeed : Loading :=
  feed (.int 25) (.str "feed") [("LIMIT", " 8 ")] "LIMIT=7\nSTRICT=no\nSTRICT='Yes'\n"

/-- The file and the default say of the limit what is no integer, and three sources name the
label. -/
def crowdedFeed : Loading :=
  feed (.str "many") (.int 0) [("LABEL", "feed"), ("LIMIT", " 8 ")]
    "LABEL=file\nLIMIT=x\nSTRICT=Yes\n"

theorem plainFeed_result :
    plainFeed.result = .ok [("limit", .int 8), ("label", .null), ("strict", .bool true)] :=
  result_eq_ok.mpr (by cbv)

theorem plainFeed_settings : plainFeed.settings =
    [⟨"limit", .choice .integer, .int 25⟩, ⟨"label", .other, .str "feed"⟩,
      ⟨"strict", .boolean, .null⟩] := by
  cbv

theorem crowdedFeed_settings : crowdedFeed.settings =
    [⟨"limit", .choice .integer, .str "many"⟩, ⟨"label", .other, .int 0⟩,
      ⟨"strict", .boolean, .null⟩] := by
  cbv

/-- An environment variable wins for the limit. -/
theorem plainFeed_agreesFor_limit : plainFeed.AgreesFor crowdedFeed
    ⟨"limit", .choice .integer, .int 25⟩ ⟨"limit", .choice .integer, .str "many"⟩ := by
  refine agreesFor_of_mention? .environment rfl rfl (u := .str " 8 ") (by cbv) ?_ ?_ <;>
  · intro other hother
    cases other <;> first | exact absurd hother (by decide) | cbv

/-- The argument wins for the label, although it is null. -/
theorem plainFeed_agreesFor_label : plainFeed.AgreesFor crowdedFeed
    ⟨"label", .other, .str "feed"⟩ ⟨"label", .other, .int 0⟩ := by
  refine agreesFor_of_mention? .argument rfl rfl (u := .null) (by cbv) ?_ ?_ <;>
  · intro other hother
    cases other <;> first | exact absurd hother (by decide) | cbv

/-- The file wins for the mode, with the last of its assignments. -/
theorem plainFeed_agreesFor_strict : plainFeed.AgreesFor crowdedFeed
    ⟨"strict", .boolean, .null⟩ ⟨"strict", .boolean, .null⟩ := by
  refine agreesFor_of_mention? .file rfl rfl (u := .str "Yes") (by cbv) ?_ ?_ <;>
  · intro other hother
    cases other <;> first | exact absurd hother (by decide) | cbv

theorem plainFeed_agreesFor : ∀ x' ∈ crowdedFeed.settings, ∃ x ∈ plainFeed.settings,
    plainFeed.AgreesFor crowdedFeed x x' := by
  rw [plainFeed_settings, crowdedFeed_settings]
  intro x' hx'
  simp only [List.mem_cons, List.not_mem_nil, or_false] at hx'
  rcases hx' with rfl | rfl | rfl
  · exact ⟨_, by simp, plainFeed_agreesFor_limit⟩
  · exact ⟨_, by simp, plainFeed_agreesFor_label⟩
  · exact ⟨_, by simp, plainFeed_agreesFor_strict⟩

/-- What is below the winners is no integer at times, and yet the values are the same. -/
theorem precedence_crowdedFeed : ∃ values, crowdedFeed.result = .ok values ∧
    Value.field? values "limit" = some (.int 8) ∧ Value.field? values "label" = some .null ∧
    Value.field? values "strict" = some (.bool true) := by
  obtain ⟨-, -, -, hsame, hworks⟩ := precedence plainFeed
  obtain ⟨values, hvalues⟩ := hworks crowdedFeed _ plainFeed_result fun x' hx' => by
    obtain ⟨x, hx, hagrees⟩ := plainFeed_agreesFor x' (mem_settings.mpr hx')
    exact ⟨x, mem_settings.mp hx, hagrees⟩
  have hfield : ∀ x' ∈ crowdedFeed.settings, Value.field? values x'.name =
      Value.field? [("limit", .int 8), ("label", .null), ("strict", .bool true)] x'.name := by
    intro x' hx'
    obtain ⟨x, hx, hagrees⟩ := plainFeed_agreesFor x' hx'
    rw [hagrees.name]
    exact hsame crowdedFeed x x' _ values (mem_settings.mp hx) (mem_settings.mp hx') hagrees
      plainFeed_result hvalues
  rw [crowdedFeed_settings] at hfield
  simp only [List.forall_mem_cons] at hfield
  exact ⟨values, hvalues, hfield.1, hfield.2.1, hfield.2.2.1⟩

end Loading

end Keyset
