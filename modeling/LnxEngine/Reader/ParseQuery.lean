import LnxEngine.Reader.Fuzzy

/-!
# Building the query of a search

`parse_query` picks a builder by mode and query source; the per-field map enters as its entries
in the `HashMap`'s iteration order, and every result holds for every order.
-/

namespace LnxEngine
namespace Reader

/-- The reader's own `Either`, which carries the query source of `parse_query`. -/
inductive Either (α β : Type) where
  | left (value : α)
  | right (value : β)

/-- `structures::QueryMode`, modelled from the spec. -/
inductive QueryMode where
  | normal
  | fuzzy
  | moreLikeThis
  deriving DecidableEq, Repr

/-- What `parse_query` calls outside this file. -/
structure QueryContext where
  /-- `parse_query` of the handler's pre-built, pre-weighted `QueryParser`. -/
  parser : String → Except EngineError Query
  /-- `parse_query` of a conjunctive `QueryParser::for_index(index, vec![field])`. -/
  fieldParser : Field → String → Except EngineError Query
  /-- `index.schema()`. -/
  schema : Schema
  /-- The handler's search fields with their boosts. -/
  searchFields : List (Field × Score)
  /-- `correction::correct_sentence`. -/
  correctSentence : String → Nat → String
  /-- `str::to_lowercase`. -/
  lowercase : Lowercase
  /-- `stop_words::get_hashset_words()`. -/
  stopWordSet : Except Error (List String)
  /-- `stop_words::get_stop_words()`. -/
  stopWordList : Except Error (List String)

/-- `parse_more_like_this`: a similarity query with the reader's fixed thresholds. -/
def parseMoreLikeThis (stopWords : Except Error (List String)) (refDocument : DocAddress) :
    Except Error Query :=
  match stopWords with
  | .error error => .error error
  | .ok stopWords =>
      .ok (.moreLikeThis
        { minDocFrequency := 1, maxDocFrequency := 10, minTermFrequency := 1,
          minWordLength := 2, maxWordLength := 18, boostFactor := 1.0, stopWords }
        refDocument)

/-- The closure mapped over the query map: the entry's sub-query, or `None` for an unknown field. -/
def fieldQuery (context : QueryContext) (entry : String × String) : Except Error (Option Query) :=
  match context.schema.getField entry.1 with
  | none => .ok none
  | some field =>
      match context.fieldParser field entry.2 with
      | .ok query => .ok (some query)
      | .error error => .error (.engine error)

/-- `Result::transpose`. -/
def transpose {ε α : Type} : Except ε (Option α) → Option (Except ε α)
  | .ok none => none
  | .ok (some value) => some (.ok value)
  | .error error => some (.error error)

/-- `collect::<Result<Vec<_>, _>>()`: every value, or the first error. -/
def collectResults {ε α : Type} : List (Except ε α) → Except ε (List α)
  | [] => .ok []
  | .error error :: _ => .error error
  | .ok value :: rest =>
      match collectResults rest with
      | .ok values => .ok (value :: values)
      | .error error => .error error

/-- `parse_query`: the query of a search, by mode and query source. -/
def parseQuery (context : QueryContext) (query : Option (Either String (List (String × String))))
    (refDocument : Option DocAddress) (mode : QueryMode) (useFastFuzzy stripStopWords : Bool) :
    Except Error Query :=
  match mode, query, refDocument with
  | .normal, none, _ => .error (.msg "query mode was `Normal` but query string is `None`")
  | .normal, some (.left query), _ => (context.parser query).mapError .engine
  | .normal, some (.right query), _ =>
      match collectResults ((query.map (fieldQuery context)).filterMap transpose) with
      | .ok queries => .ok (Query.intersection queries)
      | .error error => .error error
  | .fuzzy, none, _ => .error (.msg "query mode was `Fuzzy` but query string is `None`")
  | .fuzzy, some (.left query), _ =>
      if useFastFuzzy then
        parseFastFuzzyQuery context.correctSentence context.stopWordSet query
          context.searchFields stripStopWords
      else .ok (parseFuzzyQuery context.lowercase query context.searchFields)
  | .fuzzy, some (.right _), _ => .error (.msg "query mode was `Fuzzy` but query string is `None`")
  | .moreLikeThis, _, none =>
      .error (.msg "query mode was `MoreLikeThis` but reference document is `None`")
  | .moreLikeThis, _, some refDocument => parseMoreLikeThis context.stopWordList refDocument

/-! ## The per-field map -/

section PerField

variable (context : QueryContext)

theorem collectResults_ok_cons {ε α : Type} (value : α) (rest : List (Except ε α))
    (values : List α) :
    collectResults (.ok value :: rest) = .ok values ↔
      ∃ tail, collectResults rest = .ok tail ∧ values = value :: tail := by
  simp only [collectResults]
  cases collectResults rest with
  | error error => simp
  | ok tail =>
      simp only [Except.ok.injEq]
      exact ⟨fun same => ⟨tail, rfl, same.symm⟩, fun ⟨_, same, values⟩ => by rw [values, same]⟩

theorem collectResults_error_cons {ε α : Type} (value : α) (rest : List (Except ε α)) :
    (∃ error, collectResults (.ok value :: rest) = .error error) ↔
      ∃ error, collectResults rest = .error error := by
  simp only [collectResults]
  cases collectResults rest <;> simp

theorem collectResults_eq_ok_iff {ε α : Type} (results : List (Except ε α)) (values : List α) :
    collectResults results = .ok values ↔ results = values.map .ok := by
  induction results generalizing values with
  | nil => cases values <;> simp [collectResults]
  | cons result results induction =>
      cases result with
      | error error => cases values <;> simp [collectResults]
      | ok value =>
          rw [collectResults_ok_cons]
          cases values with
          | nil => simp
          | cons first rest =>
              simp only [induction, List.map_cons, List.cons.injEq, Except.ok.injEq]
              constructor
              · rintro ⟨tail, rfl, rfl, rfl⟩
                exact ⟨rfl, rfl⟩
              · rintro ⟨rfl, rfl⟩
                exact ⟨rest, rfl, rfl, rfl⟩

theorem collectResults_eq_error_iff {ε α : Type} (results : List (Except ε α)) :
    (∃ error, collectResults results = .error error) ↔ ∃ error, .error error ∈ results := by
  induction results with
  | nil => simp [collectResults]
  | cons result results induction =>
      cases result with
      | error error => simp [collectResults]
      | ok value => simp [collectResults_error_cons, induction]

/-- The per-field sub-queries fail exactly when a known field's text fails to parse. -/
theorem collectResults_fieldQuery_error (entries : List (String × String)) :
    (∃ error, collectResults ((entries.map (fieldQuery context)).filterMap transpose) =
        .error error) ↔
      ∃ entry ∈ entries, ∃ field cause, context.schema.getField entry.1 = some field ∧
        context.fieldParser field entry.2 = .error cause := by
  induction entries with
  | nil => simp [collectResults]
  | cons entry entries induction =>
      cases known : context.schema.getField entry.1 with
      | none =>
          simp only [List.map_cons, fieldQuery, known, List.filterMap_cons, transpose, induction]
          simp [or_and_right, exists_or, known]
      | some field =>
          cases parsed : context.fieldParser field entry.2 with
          | error cause =>
              simp only [List.map_cons, fieldQuery, known, parsed, List.filterMap_cons,
                transpose, collectResults]
              exact ⟨fun _ => ⟨entry, List.mem_cons_self _ _, field, cause, known, parsed⟩,
                fun _ => ⟨_, rfl⟩⟩
          | ok query =>
              simp only [List.map_cons, fieldQuery, known, parsed, List.filterMap_cons,
                transpose, collectResults_error_cons, induction]
              simp [or_and_right, exists_or, known, parsed]

/-- Without a failure, the sub-queries are the parse results of the known-field entries. -/
theorem collectResults_fieldQuery_ok (entries : List (String × String)) (queries : List Query) :
    collectResults ((entries.map (fieldQuery context)).filterMap transpose) = .ok queries ↔
      List.Forall₂ (fun entry query => ∃ field, context.schema.getField entry.1 = some field ∧
          context.fieldParser field entry.2 = .ok query)
        (entries.filter fun entry => (context.schema.getField entry.1).isSome) queries := by
  induction entries generalizing queries with
  | nil => cases queries <;> simp [collectResults]
  | cons entry entries induction =>
      cases known : context.schema.getField entry.1 with
      | none => simpa [fieldQuery, known, transpose] using induction queries
      | some field =>
          cases parsed : context.fieldParser field entry.2 with
          | error cause =>
              simp [fieldQuery, known, parsed, transpose, collectResults,
                List.forall₂_cons_left_iff]
          | ok query =>
              simp only [List.map_cons, fieldQuery, known, parsed, List.filterMap_cons,
                transpose, collectResults_ok_cons, induction, List.filter_cons,
                Option.isSome_some, if_true, List.forall₂_cons_left_iff, Option.some.injEq,
                Except.ok.injEq, exists_eq_left']
              constructor
              · rintro ⟨tail, related, rfl⟩
                exact ⟨query, tail, rfl, related, rfl⟩
              · rintro ⟨first, tail, rfl, related, rfl⟩
                exact ⟨tail, related, rfl⟩

/-- The map query fails exactly when a known field's text does, and is otherwise an AND. -/
theorem parseQuery_normal_map (entries : List (String × String))
    (refDocument : Option DocAddress) (useFastFuzzy stripStopWords : Bool) :
    ((∃ error, parseQuery context (some (.right entries)) refDocument .normal useFastFuzzy
        stripStopWords = .error error) ↔
      ∃ entry ∈ entries, ∃ field cause, context.schema.getField entry.1 = some field ∧
        context.fieldParser field entry.2 = .error cause) ∧
    ((∀ error, parseQuery context (some (.right entries)) refDocument .normal useFastFuzzy
        stripStopWords ≠ .error error) →
      ∃ queries, parseQuery context (some (.right entries)) refDocument .normal useFastFuzzy
          stripStopWords = .ok (Query.intersection queries) ∧
        List.Forall₂ (fun entry query => ∃ field, context.schema.getField entry.1 = some field ∧
            context.fieldParser field entry.2 = .ok query)
          (entries.filter fun entry => (context.schema.getField entry.1).isSome) queries ∧
        ∀ holds : Query → Bool,
          matchesClauses holds (Query.intersection queries).clauses = true →
            ∀ query ∈ queries, holds query = true) := by
  have unfolded : parseQuery context (some (.right entries)) refDocument .normal useFastFuzzy
        stripStopWords =
      match collectResults ((entries.map (fieldQuery context)).filterMap transpose) with
      | .ok queries => .ok (Query.intersection queries)
      | .error error => .error error := rfl
  rw [unfolded, ← collectResults_fieldQuery_error]
  constructor
  · cases collectResults ((entries.map (fieldQuery context)).filterMap transpose) <;> simp
  · intro noError
    cases collected : collectResults ((entries.map (fieldQuery context)).filterMap transpose) with
    | error error => exact absurd (by rw [collected]) (noError error)
    | ok queries =>
        exact ⟨queries, rfl, (collectResults_fieldQuery_ok context entries queries).mp collected,
          fun holds matched => ((matchesClauses_intersection holds queries).mp matched).2⟩

/-- The map query does not depend on the `HashMap`'s iteration order, bar the error reported. -/
theorem parseQuery_normal_map_perm {entries entries' : List (String × String)}
    (reordered : entries.Perm entries') (refDocument : Option DocAddress)
    (useFastFuzzy stripStopWords : Bool) :
    ((∃ error, parseQuery context (some (.right entries)) refDocument .normal useFastFuzzy
        stripStopWords = .error error) ↔
      ∃ error, parseQuery context (some (.right entries')) refDocument .normal useFastFuzzy
        stripStopWords = .error error) ∧
    ∀ query, parseQuery context (some (.right entries)) refDocument .normal useFastFuzzy
        stripStopWords = .ok query →
      ∃ queries queries', query = Query.intersection queries ∧
        parseQuery context (some (.right entries')) refDocument .normal useFastFuzzy
          stripStopWords = .ok (Query.intersection queries') ∧
        queries.Perm queries' ∧
        ∀ holds : Query → Bool, matchesClauses holds (queries.map fun query => (.must, query)) =
          matchesClauses holds (queries'.map fun query => (.must, query)) := by
  have unfolded : ∀ entries : List (String × String),
      parseQuery context (some (.right entries)) refDocument .normal useFastFuzzy stripStopWords =
        match collectResults ((entries.map (fieldQuery context)).filterMap transpose) with
        | .ok queries => .ok (Query.intersection queries)
        | .error error => .error error := fun _ => rfl
  have permuted := (reordered.map (fieldQuery context)).filterMap transpose
  have failsIff : (∃ error, collectResults ((entries.map (fieldQuery context)).filterMap
        transpose) = .error error) ↔
      ∃ error, collectResults ((entries'.map (fieldQuery context)).filterMap transpose) =
        .error error := by
    simp only [collectResults_eq_error_iff, permuted.mem_iff]
  rw [unfolded, unfolded]
  cases first : collectResults ((entries.map (fieldQuery context)).filterMap transpose) with
  | error error =>
      obtain ⟨error', second⟩ := failsIff.mp ⟨error, first⟩
      rw [second]
      simp
  | ok queries =>
      cases second : collectResults ((entries'.map (fieldQuery context)).filterMap transpose) with
      | error error' => exact absurd (failsIff.mpr ⟨error', second⟩) (by rw [first]; simp)
      | ok queries' =>
          have values := permuted.filterMap Except.toOption
          rw [(collectResults_eq_ok_iff _ _).mp first, (collectResults_eq_ok_iff _ _).mp second]
            at values
          have reorderedQueries : queries.Perm queries' := by
            simpa [List.filterMap_map, Function.comp_def, Except.toOption] using values
          refine ⟨by simp, fun query parsed => ⟨queries, queries', by simpa using parsed.symm, rfl,
            reorderedQueries, fun holds => matchesClauses_perm holds (reorderedQueries.map _)⟩⟩

/-- A map over two known fields, in its two iteration orders. -/
theorem parseQuery_normal_map_perm_swap :
    let context : QueryContext :=
      { parser := fun _ => .ok .empty, fieldParser := fun _ _ => .ok .empty,
        schema := ⟨[⟨"a", .str⟩, ⟨"b", .str⟩], fun _ => ⟨∅, fun _ _ absent => by simp at absent⟩⟩,
        searchFields := [], correctSentence := fun text _ => text,
        lowercase := ⟨fun text => text, fun _ _ => rfl⟩, stopWordSet := .ok [], stopWordList := .ok [] }
    let entries := [("a", "x"), ("b", "y")]
    let entries' := [("b", "y"), ("a", "x")]
    entries.Perm entries' ∧
      ((∃ error, parseQuery context (some (.right entries)) none .normal false false =
          .error error) ↔
        ∃ error, parseQuery context (some (.right entries')) none .normal false false =
          .error error) ∧
      ∀ query, parseQuery context (some (.right entries)) none .normal false false = .ok query →
        ∃ queries queries', query = Query.intersection queries ∧
          parseQuery context (some (.right entries')) none .normal false false =
            .ok (Query.intersection queries') ∧
          queries.Perm queries' ∧
          ∀ holds : Query → Bool, matchesClauses holds (queries.map fun query => (.must, query)) =
            matchesClauses holds (queries'.map fun query => (.must, query)) := by
  intro context entries entries'
  have reordered : entries.Perm entries' := .swap _ _ _
  exact ⟨reordered, parseQuery_normal_map_perm context reordered none false false⟩

end PerField

end Reader
end LnxEngine
