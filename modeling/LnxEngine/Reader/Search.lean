import LnxEngine.Query

/-!
# The search executor

`search` runs a `TopDocs` collector, unordered or ordered by a fast field, and maps every ranked
address to a hit through `process_search!`; the engine's search and `doc` are parameters.
-/

namespace LnxEngine
namespace Reader

/-- `TopDocs::with_limit(limit).and_offset(offset)`, whose limit tantivy asserts positive. -/
structure TopDocs where
  /-- Number of hits to return. -/
  limit : Nat
  /-- Number of leading hits to skip. -/
  offset : Nat
  /-- The assertion of `TopDocs::with_limit`. -/
  limit_pos : 0 < limit

/-- `TopDocs::with_limit`, whose assertion `limit >= 1` panics on a zero limit. -/
def TopDocs.withLimit (limit : Nat) : Outcome TopDocs :=
  if positive : 0 < limit then .done ⟨limit, 0, positive⟩
  else .panic "Limit must be strictly greater than 0."

/-- `TopDocs::and_offset`. -/
def TopDocs.andOffset (collector : TopDocs) (offset : Nat) : TopDocs :=
  { collector with offset }

/-- The value type `order_by_fast_field` reads a fast field as. -/
inductive FastValue where
  | i64
  | u64
  | f64
  deriving DecidableEq, Repr

/-- The collectors `search` runs, each paired with `Count`. -/
inductive Collector where
  /-- A `TopDocs` ranked by score. -/
  | topDocs (collector : TopDocs)
  /-- `order_by_fast_field` on a `TopDocs`, reading the field as the given value type. -/
  | orderByFastField (collector : TopDocs) (field : Field) (valueType : FastValue)

/-- The ranking value of a hit: a score, or the value of the ordering fast field. -/
inductive Ratio where
  | score (value : Score)
  | i64 (value : Int)
  | u64 (value : UInt64)
  | f64 (value : Float)
  deriving Repr

/-- The searcher snapshot of one operation. -/
structure Searcher where
  /-- `search_with_executor`: the ranked addresses and the number of matching documents. -/
  search : Query → Collector → Outcome (Except EngineError (List (Ratio × DocAddress) × Nat))
  /-- `Searcher::doc`: the stored document at an address. -/
  doc : DocAddress → Except EngineError StoredDocument

/-- `QueryHit`, with the ratio before its `serde_json` encoding. -/
@[ext]
structure QueryHit where
  /-- The decimal rendering of the document's `_id`. -/
  documentId : String
  /-- The named-field document without its `_id`. -/
  doc : NamedFieldDocument
  /-- The hit's ranking value. -/
  ratio : Ratio

/-- `QueryResults` without `time_taken`, which the handler fills in from the clock. -/
structure QueryResults where
  /-- The hits, in rank order. -/
  hits : List QueryHit
  /-- The number of matching documents. -/
  count : Nat

/-- The error text of a document without a usable `_id`. -/
def missLabeled : String :=
  "document has been missed labeled (missing identifier tag), the dataset is invalid"

section Executor

variable (searcher : Searcher) (schema : Schema)

/-- One turn of `process_search!`: fetch, convert, remove `_id` and render its first value. -/
def labelHit (entry : Ratio × DocAddress) : Outcome (Except Error QueryHit) :=
  match searcher.doc entry.2 with
  | .error cause => .done (.error (.engine cause))
  | .ok retrieved =>
      match (schema.toNamedDoc retrieved).remove "_id" with
      | (none, _) => .done (.error (.msg missLabeled))
      | (some [], _) => .panic "index out of bounds: the len is 0 but the index is 0"
      | (some (.u64 value :: _), doc) => .done (.ok ⟨toString value, doc, entry.1⟩)
      | (some (_ :: _), _) => .done (.error (.msg missLabeled))

/-- `process_search!`: a hit per ranked address, in order, or the first failure. -/
def processSearch : List (Ratio × DocAddress) → Outcome (Except Error (List QueryHit))
  | [] => .done (.ok [])
  | entry :: rest =>
      match labelHit searcher schema entry with
      | .panic message => .panic message
      | .done (.error error) => .done (.error error)
      | .done (.ok hit) =>
          match processSearch rest with
          | .done (.ok hits) => .done (.ok (hit :: hits))
          | other => other

/-- Running a collector and mapping its addresses, as every branch of `search` does. -/
def collectHits (query : Query) (collector : Collector) : Outcome (Except Error QueryResults) :=
  match searcher.search query collector with
  | .panic message => .panic message
  | .done (.error cause) => .done (.error (.engine cause))
  | .done (.ok (topDocs, count)) =>
      match processSearch searcher schema topDocs with
      | .panic message => .panic message
      | .done (.error error) => .done (.error error)
      | .done (.ok hits) => .done (.ok ⟨hits, count⟩)

/-- `search`: run the query unordered, or ordered by the fast field `order_by`. -/
def search (query : Query) (limit offset : Nat) (orderBy : Option Field) :
    Outcome (Except Error QueryResults) :=
  match TopDocs.withLimit limit with
  | .panic message => .panic message
  | .done topDocs =>
      let collector := topDocs.andOffset offset
      match orderBy with
      | none => collectHits searcher schema query (.topDocs collector)
      | some field =>
          match schema.getFieldEntry field with
          | none => .panic "index out of bounds"
          | some entry =>
              match entry.fieldType with
              | .i64 _ => collectHits searcher schema query (.orderByFastField collector field .i64)
              | .u64 _ => collectHits searcher schema query (.orderByFastField collector field .u64)
              | .f64 _ => collectHits searcher schema query (.orderByFastField collector field .f64)
              | .date _ =>
                  collectHits searcher schema query (.orderByFastField collector field .i64)
              | _ => .done (.error (.msg "field is not a fast field"))

/-! ## Mapping ranked addresses to hits -/

/-- An address whose stored document is fetched and whose first `_id` value is a `U64`. -/
def Labeled (entry : Ratio × DocAddress) : Prop :=
  ∃ retrieved value rest, searcher.doc entry.2 = .ok retrieved ∧
    (schema.toNamedDoc retrieved).entries.lookup "_id" = some (.u64 value :: rest)

/-- The hit of a labeled address: its `_id` rendered, its named document without `_id`, its rank. -/
def IsHitOf (entry : Ratio × DocAddress) (hit : QueryHit) : Prop :=
  ∃ retrieved value rest, searcher.doc entry.2 = .ok retrieved ∧
    (schema.toNamedDoc retrieved).entries.lookup "_id" = some (.u64 value :: rest) ∧
    hit.documentId = toString value ∧
    hit.doc.entries = (schema.toNamedDoc retrieved).entries.erase "_id" ∧ hit.ratio = entry.1

theorem labeled_of_isHitOf {entry : Ratio × DocAddress} {hit : QueryHit}
    (isHit : IsHitOf searcher schema entry hit) : Labeled searcher schema entry := by
  obtain ⟨retrieved, value, rest, fetched, found, -⟩ := isHit
  exact ⟨retrieved, value, rest, fetched, found⟩

theorem labeled_of_forall₂ {topDocs : List (Ratio × DocAddress)} {hits : List QueryHit}
    (related : List.Forall₂ (IsHitOf searcher schema) topDocs hits) :
    ∀ entry ∈ topDocs, Labeled searcher schema entry := by
  induction related with
  | nil => simp
  | cons isHit _ induction =>
      rintro entry (_ | ⟨_, mem⟩)
      · exact labeled_of_isHitOf searcher schema isHit
      · exact induction entry mem

/-- One turn labels the address or fails on an unlabeled one; it never indexes an empty list. -/
theorem labelHit_cases (entry : Ratio × DocAddress) :
    (∃ hit, labelHit searcher schema entry = .done (.ok hit) ∧ IsHitOf searcher schema entry hit) ∨
      (¬Labeled searcher schema entry ∧
        ∃ error, labelHit searcher schema entry = .done (.error error)) := by
  unfold labelHit
  cases fetched : searcher.doc entry.2 with
  | error cause => exact .inr ⟨fun ⟨_, _, _, fetchedOk, _⟩ => by simp [fetched] at fetchedOk, _, rfl⟩
  | ok retrieved =>
      simp only [NamedFieldDocument.remove]
      cases found : (schema.toNamedDoc retrieved).entries.lookup "_id" with
      | none => exact .inr ⟨fun ⟨_, _, _, fetchedOk, foundId⟩ => by simp_all, _, rfl⟩
      | some values =>
          cases values with
          | nil => exact absurd rfl ((schema.toNamedDoc retrieved).nonempty _ _ found)
          | cons first rest =>
              cases first with
              | u64 value =>
                  exact .inl ⟨_, rfl, retrieved, value, rest, fetched, found, rfl, rfl, rfl⟩
              | _ => exact .inr ⟨fun ⟨_, _, _, fetchedOk, foundId⟩ => by simp_all, _, rfl⟩

/-- The loop either labels every address, in order, or fails on one that is not labeled. -/
theorem processSearch_cases (topDocs : List (Ratio × DocAddress)) :
    (∃ hits, processSearch searcher schema topDocs = .done (.ok hits) ∧
        List.Forall₂ (IsHitOf searcher schema) topDocs hits) ∨
      ((∃ entry ∈ topDocs, ¬Labeled searcher schema entry) ∧
        ∃ error, processSearch searcher schema topDocs = .done (.error error)) := by
  induction topDocs with
  | nil => exact .inl ⟨[], rfl, .nil⟩
  | cons entry rest induction =>
      rcases labelHit_cases searcher schema entry with
        ⟨hit, labeled, isHit⟩ | ⟨unlabeled, error, failed⟩
      · rcases induction with ⟨hits, processed, related⟩ | ⟨⟨bad, mem, unlabeledBad⟩, error, failed⟩
        · exact .inl ⟨hit :: hits, by simp [processSearch, labeled, processed], .cons isHit related⟩
        · exact .inr ⟨⟨bad, List.mem_cons_of_mem _ mem, unlabeledBad⟩, error,
            by simp [processSearch, labeled, failed]⟩
      · exact .inr ⟨⟨entry, List.mem_cons_self _ _, unlabeled⟩, error,
          by simp [processSearch, failed]⟩

/-- `process_search!` never panics, fails exactly on an unlabeled address, else maps each one. -/
theorem processSearch_labels (topDocs : List (Ratio × DocAddress)) :
    (∀ message, processSearch searcher schema topDocs ≠ .panic message) ∧
    ((∃ error, processSearch searcher schema topDocs = .done (.error error)) ↔
      ∃ entry ∈ topDocs, ¬Labeled searcher schema entry) ∧
    ((∀ entry ∈ topDocs, Labeled searcher schema entry) →
      ∃ hits, processSearch searcher schema topDocs = .done (.ok hits) ∧
        List.Forall₂ (IsHitOf searcher schema) topDocs hits) := by
  rcases processSearch_cases searcher schema topDocs with
    ⟨hits, processed, related⟩ | ⟨unlabeled, error, failed⟩
  · have labeled := labeled_of_forall₂ searcher schema related
    refine ⟨by simp [processed], ⟨by simp [processed], fun ⟨entry, mem, bad⟩ =>
      absurd (labeled entry mem) bad⟩, fun _ => ⟨hits, processed, related⟩⟩
  · obtain ⟨entry, mem, bad⟩ := unlabeled
    exact ⟨by simp [failed], ⟨fun _ => ⟨entry, mem, bad⟩, fun _ => ⟨error, failed⟩⟩,
      fun labeled => absurd (labeled entry mem) bad⟩

/-! ## The executor -/

/-- The hit of an address is determined by the address. -/
theorem isHitOf_unique {entry : Ratio × DocAddress} {hit hit' : QueryHit}
    (isHit : IsHitOf searcher schema entry hit) (isHit' : IsHitOf searcher schema entry hit') :
    hit = hit' := by
  obtain ⟨retrieved, value, rest, fetched, found, documentId, entries, ratio⟩ := isHit
  obtain ⟨retrieved', value', rest', fetched', found', documentId', entries', ratio'⟩ := isHit'
  obtain rfl : retrieved = retrieved' := Except.ok.inj (fetched.symm.trans fetched')
  obtain ⟨rfl, -⟩ : value = value' ∧ rest = rest' := by simpa using found.symm.trans found'
  exact QueryHit.ext (documentId.trans documentId'.symm)
    (NamedFieldDocument.ext (entries.trans entries'.symm)) (ratio.trans ratio'.symm)

/-- A collector's run succeeds exactly when every ranked address is labeled. -/
theorem collectHits_ok_iff (query : Query) (collector : Collector) (results : QueryResults) :
    collectHits searcher schema query collector = .done (.ok results) ↔
      ∃ topDocs, searcher.search query collector = .done (.ok (topDocs, results.count)) ∧
        List.Forall₂ (IsHitOf searcher schema) topDocs results.hits := by
  unfold collectHits
  cases searcher.search query collector with
  | panic message => simp
  | done result =>
      cases result with
      | error cause => simp
      | ok ranked =>
          obtain ⟨topDocs, count⟩ := ranked
          simp only [Outcome.done.injEq, Except.ok.injEq, Prod.mk.injEq]
          rcases processSearch_cases searcher schema topDocs with
            ⟨hits, processed, related⟩ | ⟨⟨entry, mem, unlabeled⟩, error, failed⟩
          · simp only [processed, Outcome.done.injEq, Except.ok.injEq]
            constructor
            · rintro rfl
              exact ⟨topDocs, ⟨rfl, rfl⟩, related⟩
            · rintro ⟨_, ⟨rfl, counted⟩, related'⟩
              have unique : Relator.RightUnique (IsHitOf searcher schema) :=
                fun _ _ _ => isHitOf_unique searcher schema
              rw [List.right_unique_forall₂' unique related related', counted]
          · simp only [failed, Outcome.done.injEq, reduceCtorEq, false_iff, not_exists, not_and]
            rintro _ ⟨rfl, -⟩ related
            exact unlabeled (labeled_of_forall₂ searcher schema related entry mem)

/-- `search` succeeds exactly on a positive limit, a fast ordering type and labeled addresses. -/
theorem search_ok_iff (query : Query) (limit offset : Nat) (orderBy : Option Field)
    (results : QueryResults) :
    search searcher schema query limit offset orderBy = .done (.ok results) ↔
      ∃ (positive : 0 < limit) (collector : Collector) (topDocs : List (Ratio × DocAddress)),
        (orderBy = none ∧ collector = .topDocs ⟨limit, offset, positive⟩ ∨
          ∃ field entry valueType, orderBy = some field ∧ schema.getFieldEntry field = some entry ∧
            collector = .orderByFastField ⟨limit, offset, positive⟩ field valueType ∧
            ∃ options, entry.fieldType = .i64 options ∧ valueType = .i64 ∨
              entry.fieldType = .date options ∧ valueType = .i64 ∨
              entry.fieldType = .u64 options ∧ valueType = .u64 ∨
              entry.fieldType = .f64 options ∧ valueType = .f64) ∧
        searcher.search query collector = .done (.ok (topDocs, results.count)) ∧
        List.Forall₂ (IsHitOf searcher schema) topDocs results.hits := by
  unfold search TopDocs.withLimit
  by_cases positive : 0 < limit
  · simp only [positive, dite_true, TopDocs.andOffset, exists_prop_of_true positive]
    cases orderBy with
    | none =>
        simp only [collectHits_ok_iff, true_and, reduceCtorEq, false_and, exists_false, or_false,
          exists_and_left, exists_eq_left, exists_true_left]
    | some field =>
        cases found : schema.getFieldEntry field with
        | none =>
            simp only [found, reduceCtorEq, false_and, Option.some.injEq, exists_and_left,
              exists_eq_left', exists_false, or_self, exists_const]
        | some entry =>
            cases type : entry.fieldType <;>
              simp only [found, type, collectHits_ok_iff, Outcome.done.injEq, reduceCtorEq,
                false_and, and_false, Option.some.injEq, exists_and_left, exists_and_right,
                exists_eq_left, exists_eq_left', exists_eq_right, exists_eq', exists_false,
                exists_const, exists_true_left, true_and, or_false, false_or, or_self,
                FieldType.i64.injEq, FieldType.u64.injEq, FieldType.f64.injEq, FieldType.date.injEq]
  · simp [positive]

end Executor

end Reader
end LnxEngine
