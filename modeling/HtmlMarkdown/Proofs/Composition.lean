import Mathlib
import HtmlMarkdown.Proofs.Idle
import HtmlMarkdown.Proofs.Parsed

/-!
# Rules that cannot be composed

What a caller gives for a rule is looked at before anything else is done. The first entry that can be
made no rule ends a conversion with its error.

* `FilterSource.IsSupported`, `RuleSource.IsRule`: entries that can be made rules;
* `RuleSource.IsFaulty`, `FirstFault`: what is wrong with an entry, and with a list of entries;
* `toFilter_eq_error_iff`, `toRule_eq_error_iff`: one entry;
* `mapM_eq_error_iff`, `composeRules_eq_error_iff`: a list of entries;
* `RuleSource.withReplacement`, `firstFault_map_withReplacement_iff`: the same entries with other
  replacements;
* `Options.convert_of_firstFault`: a conversion with a faulty entry;
* **`composeRules_allRules_eq_error_iff`**.
-/

namespace HtmlMarkdown

/-! ## Entries -/

/-- A filter can be made of what a caller gives: it is one, or a text, or a list of texts. -/
inductive FilterSource.IsSupported : FilterSource → Prop
  | ready (filter : Filter) : IsSupported (.ready filter)
  | text (s : Text) : IsSupported (.value (.text s))
  | texts (names : List Text) : IsSupported (.value (.list (names.map .text)))

/-- A rule can be made of an entry: it is one, or has the parts of one with a filter that is
supported. -/
inductive RuleSource.IsRule : RuleSource → Prop
  | ready (rule : Rule) : IsRule (.ready rule)
  | parts {filter : FilterSource} (h : filter.IsSupported) (replacement : Replacement)
      (name : Value) : IsRule (.parts filter replacement name)

/-- Why no rule can be made of an entry: its filter is not supported, or it is no rule at all. -/
inductive RuleSource.IsFaulty : RuleSource → Error → Prop
  | filter {v : Value} (h : ¬ (FilterSource.value v).IsSupported) (replacement : Replacement)
      (name : Value) : IsFaulty (.parts (.value v) replacement name) (.unsupportedFilter v)
  | entry (v : Value) : IsFaulty (.value v) (.notRule v)

/-- The first entry that can be made no rule, and why. -/
def FirstFault (sources : List RuleSource) (err : Error) : Prop :=
  ∃ earlier source later, sources = earlier ++ source :: later ∧ (∀ s ∈ earlier, s.IsRule) ∧
    source.IsFaulty err

theorem RuleSource.IsFaulty.not_isRule {source : RuleSource} {err : Error}
    (h : source.IsFaulty err) : ¬ source.IsRule := by
  intro hrule
  cases h with
  | filter hno =>
    cases hrule with
    | parts hyes => exact hno hyes
  | entry => cases hrule

theorem RuleSource.exists_isFaulty {source : RuleSource} (h : ¬ source.IsRule) :
    ∃ err, source.IsFaulty err := by
  rcases source with rule | ⟨filter | v, replacement, name⟩ | v
  · exact absurd (.ready rule) h
  · exact absurd (.parts (.ready filter) replacement name) h
  · exact ⟨_, .filter (fun hv => h (.parts hv replacement name)) replacement name⟩
  · exact ⟨_, .entry v⟩

/-! ## One entry -/

theorem textsOf?_eq_some_iff {vs : List Value} {names : List Text} :
    textsOf? vs = some names ↔ vs = names.map .text := by
  induction vs generalizing names with
  | nil =>
    rw [textsOf?, Option.some.injEq]
    exact ⟨fun h => h ▸ rfl, fun h => (List.map_eq_nil_iff.mp h.symm).symm⟩
  | cons v vs ih =>
    cases v with
    | text s =>
      rw [textsOf?, Option.map_eq_some_iff]
      constructor
      · rintro ⟨rest, hrest, rfl⟩
        rw [ih.mp hrest, List.map_cons]
      · intro h
        obtain ⟨s', rest, rfl, hs, hrest⟩ := List.map_eq_cons_iff.mp h.symm
        cases hs
        exact ⟨rest, ih.mpr hrest.symm, rfl⟩
    | _ =>
      refine ⟨nofun, fun h => ?_⟩
      obtain ⟨s', rest, rfl, hs, hrest⟩ := List.map_eq_cons_iff.mp h.symm
      cases hs

theorem isSupported_list_iff {vs : List Value} :
    (FilterSource.value (.list vs)).IsSupported ↔ ∃ names, textsOf? vs = some names := by
  constructor
  · intro h
    cases h with
    | texts names => exact ⟨names, textsOf?_eq_some_iff.mpr rfl⟩
  · rintro ⟨names, hnames⟩
    rw [textsOf?_eq_some_iff.mp hnames]
    exact .texts names

/-- **A filter is made** of a value that is supported, and any other value is refused. -/
theorem toFilter_value_cases (v : Value) :
    ((FilterSource.value v).IsSupported ∧ ∃ filter, (FilterSource.value v).toFilter = .ok filter) ∨
      (¬ (FilterSource.value v).IsSupported ∧
        (FilterSource.value v).toFilter = .error (.unsupportedFilter v)) := by
  cases v with
  | text s => exact Or.inl ⟨.text s, _, rfl⟩
  | list vs =>
    rw [isSupported_list_iff, FilterSource.toFilter]
    rcases hnames : textsOf? vs with _ | names
    · exact Or.inr ⟨nofun, rfl⟩
    · exact Or.inl ⟨⟨names, rfl⟩, _, rfl⟩
  | _ => exact Or.inr ⟨nofun, rfl⟩

/-- **A rule is made** of an entry, or the entry is faulty and refused for that. -/
theorem toRule_cases (source : RuleSource) :
    (source.IsRule ∧ ∃ rule, source.toRule = .ok rule) ∨
      ∃ err, source.IsFaulty err ∧ source.toRule = .error err := by
  rcases source with rule | ⟨filter | v, replacement, name⟩ | v
  · exact Or.inl ⟨.ready rule, rule, rfl⟩
  · exact Or.inl ⟨.parts (.ready filter) replacement name, _, rfl⟩
  · rcases toFilter_value_cases v with ⟨hv, filter, hfilter⟩ | ⟨hv, herr⟩
    · refine Or.inl ⟨.parts hv replacement name, { filter, replacement, name }, ?_⟩
      rw [RuleSource.toRule, hfilter]
      rfl
    · refine Or.inr ⟨_, .filter hv replacement name, ?_⟩
      rw [RuleSource.toRule, herr]
      rfl
  · exact Or.inr ⟨_, .entry v, rfl⟩

theorem toRule_eq_error_iff {source : RuleSource} {err : Error} :
    source.toRule = .error err ↔ source.IsFaulty err := by
  rcases toRule_cases source with ⟨hrule, rule, hok⟩ | ⟨err', hfaulty, herr⟩
  · rw [hok]
    exact ⟨nofun, fun h => absurd hrule h.not_isRule⟩
  · rw [herr, Except.error.injEq]
    refine ⟨fun h => h ▸ hfaulty, fun h => ?_⟩
    cases hfaulty <;> cases h <;> rfl

theorem exists_toRule_iff {source : RuleSource} :
    (∃ rule, source.toRule = .ok rule) ↔ source.IsRule := by
  rcases toRule_cases source with ⟨hrule, hok⟩ | ⟨err, hfaulty, herr⟩
  · exact iff_of_true hok hrule
  · rw [herr]
    exact iff_of_false nofun hfaulty.not_isRule

/-! ## Lists of entries -/

/-- **The error of a list is that of its first element with one.** -/
theorem mapM_eq_error_iff {α β : Type} {f : α → Except Error β} {xs : List α} {err : Error} :
    xs.mapM f = .error err ↔ ∃ earlier x later, xs = earlier ++ x :: later ∧
      (∀ y ∈ earlier, ∃ b, f y = .ok b) ∧ f x = .error err := by
  induction xs with
  | nil => simp [pure, Except.pure]
  | cons x xs ih =>
    rw [List.mapM_cons]
    constructor
    · intro h
      rcases bind_eq_error h with hx | ⟨b, hx, hrest⟩
      · exact ⟨[], x, xs, rfl, List.forall_mem_nil _, hx⟩
      · rcases bind_eq_error hrest with hxs | ⟨bs, _, hpure⟩
        · obtain ⟨earlier, y, later, rfl, hearlier, hy⟩ := ih.mp hxs
          exact ⟨x :: earlier, y, later, rfl, List.forall_mem_cons.mpr ⟨⟨b, hx⟩, hearlier⟩, hy⟩
        · cases hpure
    · rintro ⟨earlier, y, later, hxs, hearlier, hy⟩
      rcases earlier with _ | ⟨z, earlier⟩
      · obtain ⟨rfl, rfl⟩ := List.cons.inj hxs
        rw [hy]
        rfl
      · obtain ⟨rfl, rfl⟩ := List.cons.inj hxs
        obtain ⟨⟨b, hx⟩, hearlier⟩ := List.forall_mem_cons.mp hearlier
        have hrest := ih.mpr ⟨earlier, y, later, rfl, hearlier, hy⟩
        simp only [bind, Except.bind, hx, hrest]

/-- **Entries cannot be composed** if one of them is faulty; the first that is tells why. -/
theorem composeRules_eq_error_iff {sources : List RuleSource} {err : Error} :
    composeRules sources = .error err ↔ FirstFault sources err := by
  rw [composeRules, mapM_eq_error_iff, FirstFault]
  simp only [exists_toRule_iff, toRule_eq_error_iff]

theorem firstFault_cons_iff {source : RuleSource} {sources : List RuleSource} {err : Error} :
    FirstFault (source :: sources) err ↔
      source.IsFaulty err ∨ source.IsRule ∧ FirstFault sources err := by
  constructor
  · rintro ⟨_ | ⟨first, earlier⟩, other, later, hsplit, hearlier, hfaulty⟩
    · obtain ⟨rfl, rfl⟩ := List.cons.inj hsplit
      exact Or.inl hfaulty
    · obtain ⟨rfl, rfl⟩ := List.cons.inj hsplit
      rw [List.forall_mem_cons] at hearlier
      exact Or.inr ⟨hearlier.1, earlier, other, later, rfl, hearlier.2, hfaulty⟩
  · rintro (hfaulty | ⟨hrule, earlier, other, later, rfl, hearlier, hfaulty⟩)
    · exact ⟨[], source, sources, rfl, List.forall_mem_nil _, hfaulty⟩
    · exact ⟨source :: earlier, other, later, rfl, List.forall_mem_cons.mpr ⟨hrule, hearlier⟩,
        hfaulty⟩

/-- There is a first faulty entry if there is an entry of which no rule can be made. -/
theorem exists_firstFault_iff {sources : List RuleSource} :
    (∃ err, FirstFault sources err) ↔ ∃ source ∈ sources, ¬ source.IsRule := by
  constructor
  · rintro ⟨err, earlier, source, later, rfl, -, hfaulty⟩
    exact ⟨source, List.mem_append_right _ List.mem_cons_self, hfaulty.not_isRule⟩
  · intro h
    induction sources with
    | nil => simp at h
    | cons source sources ih =>
      by_cases hrule : source.IsRule
      · obtain ⟨err, hfault⟩ := ih (by simpa [hrule] using h)
        exact ⟨err, firstFault_cons_iff.mpr (Or.inr ⟨hrule, hfault⟩)⟩
      · obtain ⟨err, hfaulty⟩ := source.exists_isFaulty hrule
        exact ⟨err, firstFault_cons_iff.mpr (Or.inl hfaulty)⟩

/-! ## Other replacements -/

/-- The same entry with another replacement, if it has one. -/
def RuleSource.withReplacement (replacement : Replacement) : RuleSource → RuleSource
  | ready rule => .ready { rule with replacement }
  | parts filter _ name => .parts filter replacement name
  | value v => .value v

theorem isRule_withReplacement_iff {source : RuleSource} (replacement : Replacement) :
    (source.withReplacement replacement).IsRule ↔ source.IsRule := by
  cases source with
  | ready rule => exact iff_of_true (.ready _) (.ready rule)
  | parts filter other name =>
    constructor
    · rintro ⟨⟩
      exact .parts ‹_› other name
    · rintro ⟨⟩
      exact .parts ‹_› replacement name
  | value v => rfl

theorem isFaulty_withReplacement_iff {source : RuleSource} {err : Error} (replacement : Replacement) :
    (source.withReplacement replacement).IsFaulty err ↔ source.IsFaulty err := by
  cases source with
  | ready rule => exact iff_of_false nofun nofun
  | parts filter other name =>
    constructor
    · rintro ⟨⟩
      exact .filter ‹_› other name
    · rintro ⟨⟩
      exact .filter ‹_› replacement name
  | value v => rfl

/-- **Replacements make no difference to whether entries can be composed**, functions or not. -/
theorem firstFault_map_withReplacement_iff {sources : List RuleSource} {err : Error}
    (replacement : RuleSource → Replacement) :
    FirstFault (sources.map fun source => source.withReplacement (replacement source)) err ↔
      FirstFault sources err := by
  induction sources with
  | nil => rfl
  | cons source sources ih =>
    rw [List.map_cons, firstFault_cons_iff, firstFault_cons_iff, ih, isRule_withReplacement_iff,
      isFaulty_withReplacement_iff]

/-! ## Conversions -/

namespace Options

variable {o : Options} {err : Error}

/-- The same options with other replacements. -/
def withReplacements (o : Options) (replacement : RuleSource → Replacement) : Options :=
  { o with rules := o.rules.map fun source => source.withReplacement (replacement source) }

/-- Only what the caller gives can be faulty. -/
theorem composeRules_allRules_eq_error : composeRules o.allRules = .error err ↔
    FirstFault o.rules err := by
  have hrules : composeRules o.allRules = (composeRules o.rules).map (· ++ builtInRules o.gfm) :=
    o.composeRules_allRules o.gfm
  rw [hrules, ← composeRules_eq_error_iff]
  rcases composeRules o.rules with err' | rules <;> simp [Except.map]

/-- **A faulty entry ends a conversion before anything is done**: no markup is read, and no rule is
asked or applied. -/
theorem convert_of_firstFault (h : FirstFault o.rules err) {markup : Text} (hmarkup : markup ≠ []) :
    o.convert (.text markup) = throw err := by
  have hcontext : o.context = .error err := by
    rw [context, composeRules_allRules_eq_error.mpr h]
    rfl
  obtain ⟨c, rest, rfl⟩ := List.exists_cons_of_ne_nil hmarkup
  rw [convert, hcontext]
  · rfl
  · exact hmarkup

end Options

/-- **Faulty entries fail before anything runs.** The rules of a conversion cannot be composed if and
only if the caller gives an entry of which no rule can be made, and the error is that of the first
such entry. Any text but the empty one is then refused with this error, whatever its markup and the
entries after the faulty one are: the conversion is this failure and nothing else, so that no progress
is made and no replacement called. For the empty text there is nothing to convert, and what is no text
is refused as such, whatever the entries are. What the replacements of the entries are, functions or
not, makes no difference to whether the rules can be composed. -/
theorem composeRules_allRules_eq_error_iff (o : Options) :
    (∀ err, composeRules o.allRules = .error err ↔ FirstFault o.rules err) ∧
    ((∃ err, composeRules o.allRules = .error err) ↔ ∃ source ∈ o.rules, ¬ source.IsRule) ∧
    (∀ err, FirstFault o.rules err → ∀ markup, markup ≠ [] →
      o.convert (.text markup) = throw err ∧
        ∀ s, (o.convert (.text markup)).run s = .error err s) ∧
    o.convert (.text []) = pure [] ∧
    (∀ v, (∀ s, v ≠ .text s) → o.convert v = throw (.inputNotText v)) ∧
    ∀ (replacement : RuleSource → Replacement) err,
      composeRules (o.withReplacements replacement).allRules = .error err ↔
        composeRules o.allRules = .error err := by
  refine ⟨fun err => Options.composeRules_allRules_eq_error, ?_, fun err h markup hmarkup => ?_, rfl,
    fun v hv => ?_, fun replacement err => ?_⟩
  · simp only [Options.composeRules_allRules_eq_error]
    exact exists_firstFault_iff
  · have hthrow := Options.convert_of_firstFault h hmarkup
    exact ⟨hthrow, fun s => by rw [hthrow]; rfl⟩
  · cases v with
    | text s => exact absurd rfl (hv s)
    | _ => rfl
  · rw [Options.composeRules_allRules_eq_error, Options.composeRules_allRules_eq_error]
    exact firstFault_map_withReplacement_iff replacement

/-- What a caller may give: a rule with a replacement that is no function, something that is no rule,
and a rule with a filter that is not supported. -/
def brokenEntries : Options where
  rules := [.parts (.value (.text ['p'])) (.value .null) (.text []), .value (.int 5),
    .parts (.value .null) (.value .null) (.text [])]

theorem composeRules_allRules_eq_error_iff_brokenEntries :
    FirstFault brokenEntries.rules (.notRule (.int 5)) ∧
    composeRules brokenEntries.allRules = .error (.notRule (.int 5)) ∧
    brokenEntries.convert (.text ['x']) = throw (.notRule (.int 5)) ∧
    brokenEntries.convert .null = throw (.inputNotText .null) := by
  have hfirst : FirstFault brokenEntries.rules (.notRule (.int 5)) :=
    ⟨_, _, _, (rfl : _ = [_] ++ _ :: [_]),
      List.forall_mem_singleton.mpr (.parts (.text ['p']) _ _), .entry (.int 5)⟩
  obtain ⟨hcompose, -, hconvert, -, hother, -⟩ := composeRules_allRules_eq_error_iff brokenEntries
  exact ⟨hfirst, (hcompose _).mpr hfirst, (hconvert _ hfirst ['x'] (List.cons_ne_nil _ _)).1,
    hother .null nofun⟩

end HtmlMarkdown
