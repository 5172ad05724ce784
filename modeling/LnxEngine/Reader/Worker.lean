import LnxEngine.Reader.ParseQuery
import LnxEngine.Reader.Search

/-!
# The closures on the rayon pool

What the closures of `get_doc` and `search` send back or panic with, and the caller's part of
`search` before the spawn; the limit reaches `TopDocs::with_limit` unchecked.
-/

namespace LnxEngine
namespace Reader

/-- `QueryPayload`, from the spec as its source is absent; the map in iteration order. -/
structure QueryPayload where
  /-- The free-text query. -/
  query : Option String
  /-- The per-field query map. -/
  map : List (String × String)
  /-- The id of the reference document of a more-like-this query. -/
  document : Option UInt64
  /-- The query mode. -/
  mode : QueryMode
  /-- The name of the ordering field. -/
  orderBy : Option String
  /-- The number of hits to return. -/
  limit : Nat
  /-- The number of hits to skip. -/
  offset : Nat

/-- `try_get_doc!`: the top document holding a term, or the error sent back. -/
def tryGetDoc (searcher : Searcher) (term : Term) : Outcome (Except Error DocAddress) :=
  match TopDocs.withLimit 1 with
  | .panic message => .panic message
  | .done one =>
      match searcher.search (.term term .basic) (.topDocs one) with
      | .panic message => .panic message
      | .done (.error cause) => .done (.error (.engine cause))
      | .done (.ok ([], _)) => .done (.error (.msg "no document exists with this id"))
      | .done (.ok (first :: _, _)) => .done (.ok first.2)

/-- The closure `get_doc` spawns: look the id term up, then fetch the stored document. -/
def getDocTask (searcher : Searcher) (term : Term) : Outcome (Except Error StoredDocument) :=
  match tryGetDoc searcher term with
  | .panic message => .panic message
  | .done (.error error) => .done (.error error)
  | .done (.ok address) => .done ((searcher.doc address).mapError .engine)

/-- The source `search` passes to `parse_query`: the query, else a non-empty map. -/
def querySource (payload : QueryPayload) : Option (Either String (List (String × String))) :=
  match payload.query, payload.map.isEmpty with
  | some query, _ => some (.left query)
  | none, false => some (.right payload.map)
  | none, true => none

/-- The closure `search` spawns: resolve the reference document, build the query, run it. -/
def searchTask (context : QueryContext) (searcher : Searcher) (payload : QueryPayload)
    (docId : Option Term) (orderBy : Option Field) (useFastFuzzy stripStopWords : Bool) :
    Outcome (Except Error QueryResults) :=
  let refDocument : Outcome (Except Error (Option DocAddress)) :=
    match docId with
    | none => .done (.ok none)
    | some doc =>
        match tryGetDoc searcher doc with
        | .panic message => .panic message
        | .done (.error error) => .done (.error error)
        | .done (.ok address) => .done (.ok (some address))
  match refDocument with
  | .panic message => .panic message
  | .done (.error error) => .done (.error error)
  | .done (.ok refDocument) =>
      match parseQuery context (querySource payload) refDocument payload.mode useFastFuzzy
          stripStopWords with
      | .error error => .done (.error error)
      | .ok query =>
          search searcher context.schema query payload.limit payload.offset orderBy

/-- The caller's part of `search`: the reference `_id` term and the ordering field, if declared. -/
def searchPrelude (schema : Schema) (payload : QueryPayload) :
    Except Error (Option Term × Option Field) :=
  match schema.getField "_id", payload.document with
  | none, _ => .error (.msg "missing a required private field, this is a bug.")
  | some _, none => .ok (none, payload.orderBy.bind schema.getField)
  | some field, some docId =>
      .ok (some (Term.fromFieldU64 field docId), payload.orderBy.bind schema.getField)

/-! ## Panics on the worker -/

/-- A zero-limit fuzzy search panics on the worker, whatever the engine answers. -/
theorem searchTask_zero_limit (context : QueryContext) (searcher : Searcher) :
    searchTask context searcher ⟨some "a", [], none, .fuzzy, none, 0, 0⟩ none none false false =
      .panic "Limit must be strictly greater than 0." := rfl

section Panics

variable {searcher : Searcher} {schema : Schema} {message : String}

theorem tryGetDoc_panic {term : Term} (panicked : tryGetDoc searcher term = .panic message) :
    ∃ query collector, searcher.search query collector = .panic message := by
  simp only [tryGetDoc, TopDocs.withLimit, Nat.one_pos, dite_true] at panicked
  split at panicked
  · cases panicked
    exact ⟨_, _, ‹_›⟩
  all_goals cases panicked

theorem collectHits_panic {query : Query} {collector : Collector}
    (panicked : collectHits searcher schema query collector = .panic message) :
    searcher.search query collector = .panic message := by
  unfold collectHits at panicked
  split at panicked
  · simp_all
  · cases panicked
  · split at panicked
    · rcases processSearch_cases searcher schema ‹_› with ⟨_, done, _⟩ | ⟨_, _, done⟩ <;>
        simp_all
    all_goals cases panicked

/-- `search` panics on a zero limit, an ordering field without entry, or in the engine. -/
theorem search_panic {query : Query} {limit offset : Nat} {orderBy : Option Field}
    (panicked : search searcher schema query limit offset orderBy = .panic message) :
    limit = 0 ∨ (∃ field, orderBy = some field ∧ schema.getFieldEntry field = none) ∨
      ∃ query collector, searcher.search query collector = .panic message := by
  unfold search TopDocs.withLimit at panicked
  by_cases positive : 0 < limit
  · simp only [positive, dite_true] at panicked
    split at panicked
    · exact .inr (.inr ⟨_, _, collectHits_panic panicked⟩)
    · split at panicked
      · exact .inr (.inl ⟨_, rfl, ‹_›⟩)
      · split at panicked
        all_goals first
          | exact .inr (.inr ⟨_, _, collectHits_panic panicked⟩)
          | cases panicked
  · exact .inl (by omega)

theorem orderBy_entry_of_searchPrelude {payload : QueryPayload} {docId : Option Term}
    {orderBy : Option Field} (prelude : searchPrelude schema payload = .ok (docId, orderBy))
    {field : Field} (ordered : orderBy = some field) :
    ∃ entry, schema.getFieldEntry field = some entry := by
  have resolved : payload.orderBy.bind schema.getField = orderBy := by
    unfold searchPrelude at prelude
    split at prelude <;> simp_all
  obtain ⟨name, -, found⟩ := Option.bind_eq_some.mp (resolved.trans ordered)
  obtain ⟨entry, hasEntry, -⟩ := Schema.getFieldEntry_of_getField found
  exact ⟨entry, hasEntry⟩

/-- Apart from a zero limit, the `search` closure panics only where the engine does. -/
theorem searchTask_panic_of_searchPrelude {context : QueryContext} {payload : QueryPayload}
    {docId : Option Term} {orderBy : Option Field} {useFastFuzzy stripStopWords : Bool}
    (prelude : searchPrelude context.schema payload = .ok (docId, orderBy))
    (panicked : searchTask context searcher payload docId orderBy useFastFuzzy stripStopWords =
      .panic message) :
    payload.limit = 0 ∨ ∃ query collector, searcher.search query collector = .panic message := by
  have fromSearch : ∀ query, search searcher context.schema query payload.limit payload.offset
      orderBy = .panic message →
        payload.limit = 0 ∨ ∃ query collector, searcher.search query collector = .panic message := by
    intro query searched
    rcases search_panic searched with zero | ⟨field, ordered, missing⟩ | engine
    · exact .inl zero
    · obtain ⟨entry, hasEntry⟩ := orderBy_entry_of_searchPrelude prelude ordered
      simp [hasEntry] at missing
    · exact .inr engine
  unfold searchTask at panicked
  cases docId with
  | none =>
      simp only at panicked
      split at panicked
      · cases panicked
      · exact fromSearch _ panicked
  | some doc =>
      simp only at panicked
      cases looked : tryGetDoc searcher doc with
      | panic cause =>
          rw [looked] at panicked
          cases panicked
          exact .inr (tryGetDoc_panic looked)
      | done result =>
          rw [looked] at panicked
          cases result with
          | error => cases panicked
          | ok address =>
              simp only at panicked
              split at panicked
              · cases panicked
              · exact fromSearch _ panicked

/-- A zero-limit fuzzy search, against an engine that finds nothing, panics on the worker. -/
theorem searchTask_panic_of_searchPrelude_zero_limit :
    let context : QueryContext :=
      { parser := fun _ => .ok .empty, fieldParser := fun _ _ => .ok .empty,
        schema := ⟨[⟨"_id", .u64 ⟨none⟩⟩], fun _ => ⟨∅, fun _ _ absent => by simp at absent⟩⟩,
        searchFields := [], correctSentence := fun text _ => text, stopWordSet := .ok [],
        stopWordList := .ok [], lowercase := ⟨fun text => text, fun _ _ => rfl⟩ }
    let searcher : Searcher := ⟨fun _ _ => .done (.ok ([], 0)), fun _ => .error ⟨"absent"⟩⟩
    let payload : QueryPayload := ⟨some "a", [], none, .fuzzy, none, 0, 0⟩
    searchPrelude context.schema payload = .ok (none, none) ∧
      searchTask context searcher payload none none false false =
        .panic "Limit must be strictly greater than 0." ∧
      (payload.limit = 0 ∨ ∃ query collector,
        searcher.search query collector = .panic "Limit must be strictly greater than 0.") := by
  intro context searcher payload
  exact ⟨rfl, rfl, @searchTask_panic_of_searchPrelude searcher _ context payload none none false
    false rfl rfl⟩

end Panics

end Reader
end LnxEngine
