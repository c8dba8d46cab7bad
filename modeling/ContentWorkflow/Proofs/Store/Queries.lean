import ContentWorkflow.Store.History
import Mathlib.Data.List.Nodup

/-!
# What queries of the history answer

Without a page a query is answered with the records that it selects, each once and in its order
(`Lists`), which is one list only, because no two records of a table have one number
(`Lists.unique`). A page is cut out of that list, so pages of one length that follow each other put
it together again (`flat_map_pages`). The latest record of a field is the first one that a query for
the records of the field answers (`latest_eq_head`). A query is refused if it binds more variables
than the database allows, which a long list of entities does, also where it repeats one of them.
-/

namespace ContentWorkflow

namespace HistoryQuery

variable {query : HistoryQuery} {table found other : List HistoryRecord}
  {first second third record : HistoryRecord}

/-- The first record comes before the second in an answer: its time does, in the order asked for,
or the times are the same and its number is greater. -/
def Precedes (query : HistoryQuery) (first second : HistoryRecord) : Prop :=
  (match query.order with
    | .ascending => first.timestamp < second.timestamp
    | .descending => second.timestamp < first.timestamp) ∨
    first.timestamp = second.timestamp ∧ second.hid < first.hid

instance (query : HistoryQuery) (first second : HistoryRecord) :
    Decidable (query.Precedes first second) :=
  match query with
  | ⟨_, _, _, .ascending, _, _⟩ => inferInstanceAs (Decidable (_ < _ ∨ _))
  | ⟨_, _, _, .descending, _, _⟩ => inferInstanceAs (Decidable (_ < _ ∨ _))

/-- The records are those of the table that the query selects, in its order. No record comes before
itself, so each is there once. -/
structure Lists (query : HistoryQuery) (table found : List HistoryRecord) : Prop where
  mem_iff : ∀ record, record ∈ found ↔ record ∈ table ∧ query.Selects record
  ordered : found.Pairwise query.Precedes

/-- The query for everything that the query selects. -/
def unpaged (query : HistoryQuery) : HistoryQuery :=
  { query with limit := none, offset := none }

/-- The query for one of the pages of some length, which are counted from zero. -/
def pageAt (query : HistoryQuery) (length index : Nat) : HistoryQuery :=
  { query with limit := some length, offset := some (index * length) }

/-- The query for the records of one field of an item, the latest first. -/
def ofField (target : Target) (fieldName : String) : HistoryQuery :=
  { latestFirst target.entityType [target.entityId] with fieldName := some fieldName }

/-- How many records are passed over: none unless the offset is positive. -/
def passed (query : HistoryQuery) : Nat :=
  match query.offset with
  | some offset => if 0 < offset then offset.toNat else 0
  | none => 0

/-- The page has room at the position, which it has everywhere without a limit or with a negative
one. -/
def Reaches (query : HistoryQuery) (position : Nat) : Prop :=
  ∀ limit ∈ query.limit, 0 ≤ limit → (position : Int) < limit

instance (query : HistoryQuery) (position : Nat) : Decidable (query.Reaches position) :=
  inferInstanceAs (Decidable (∀ limit ∈ query.limit, _))

/-! ## The order of an answer -/

theorem Precedes.ne (h : query.Precedes first second) : first ≠ second := by
  rintro rfl
  rcases query with ⟨_, _, _, order, _, _⟩
  cases order <;> simp only [Precedes] at h <;> omega

theorem Precedes.asymm (h : query.Precedes first second) : ¬ query.Precedes second first := by
  rcases query with ⟨_, _, _, order, _, _⟩
  cases order <;> simp only [Precedes] at h ⊢ <;> omega

/-- Of two records with different numbers, the one that ranks first comes first. -/
theorem Ranks.precedes (h : query.Ranks first second) (hne : first.hid ≠ second.hid) :
    query.Precedes first second := by
  rcases query with ⟨_, _, _, order, _, _⟩
  cases order <;> simp only [Ranks, Precedes] at h ⊢ <;> omega

theorem Lists.nodup (h : query.Lists table found) : found.Nodup :=
  h.ordered.imp Precedes.ne

/-- A query lists one list. -/
theorem Lists.unique (h : query.Lists table found) (hother : query.Lists table other) :
    other = found := by
  have hperm : other.Perm found :=
    (List.perm_ext_iff_of_nodup hother.nodup h.nodup).2 fun record => by
      rw [hother.mem_iff, h.mem_iff]
  exact hperm.eq_of_pairwise (fun _ _ _ _ hlt hgt => absurd hgt hlt.asymm) hother.ordered h.ordered

/-- Only which entities are listed matters, and whether any are. -/
theorem Lists.of_ids {ids : List Int} (h : query.Lists table found)
    (hids : ∀ id, id ∈ ids ↔ id ∈ query.entityIds) :
    Lists { query with entityIds := ids } table found where
  mem_iff record := by
    have hnone : ids = [] ↔ query.entityIds = [] := by
      simp only [List.eq_nil_iff_forall_not_mem, hids]
    rw [h.mem_iff]
    simp only [Selects, hnone, hids]
  ordered := h.ordered

/-- Without a page the answer lists what the query selects. -/
theorem lists_answer (hkeys : (table.map (·.hid)).Nodup) (query : HistoryQuery) :
    query.Lists table (query.unpaged.answer table) := by
  have hranks := pairwise_sorted query.unpaged.Ranks Ranks.trans
    (ranks_total query.unpaged) (table.filter fun record => query.unpaged.Selects record)
  have hnumbers : ((query.unpaged.answer table).map (·.hid)).Nodup := by
    refine (((List.mergeSort_perm _ _).map _).nodup_iff).2 ?_
    exact hkeys.sublist (List.filter_sublist.map _)
  refine ⟨fun record => ?_, ?_⟩
  · show record ∈ List.mergeSort _ _ ↔ _
    rw [List.mem_mergeSort, List.mem_filter, decide_eq_true_iff]
    rfl
  · have hdistinct := List.pairwise_map.1 hnumbers
    exact (hranks.and hdistinct).imp fun ⟨hrank, hne⟩ => Ranks.precedes hrank hne

/-! ## Pages -/

/-- A page is cut out of everything that the query selects. -/
theorem answer_eq_page (query : HistoryQuery) (table : List HistoryRecord) :
    query.answer table = query.page (query.unpaged.answer table) := by
  rcases query with ⟨_, _, _, order, _, _⟩
  cases order <;> rfl

/-- What a page holds at a position. -/
theorem get_page (query : HistoryQuery) (records : List HistoryRecord) (position : Nat) :
    (query.page records)[position]? =
      if query.Reaches position then records[query.passed + position]? else none := by
  have hpassed : (query.offset.getD 0).toNat = query.passed := by
    unfold passed
    cases query.offset with
    | none => rfl
    | some offset =>
        dsimp only
        rw [Option.getD_some]
        split <;> omega
  rw [page, hpassed]
  cases hlimit : query.limit with
  | none => simp [Reaches, hlimit]
  | some limit =>
      have hroom : query.Reaches position ↔ (0 ≤ limit → (position : Int) < limit) := by
        simp [Reaches, hlimit]
      by_cases hnegative : limit < 0
      · simp [hroom, hnegative, Int.not_le.2 hnegative]
      · simp only [hroom, hnegative, if_false, Int.not_lt.1 hnegative, true_imp_iff,
          List.getElem?_take, List.getElem?_drop]
        refine if_congr ?_ rfl rfl
        omega

/-- Pages of one length that follow each other, from the first one on, hold what comes first. -/
theorem flat_map_pages (query : HistoryQuery) (records : List HistoryRecord) (length count : Nat) :
    ((List.range count).flatMap fun index => (query.pageAt length index).page records) =
      records.take (count * length) := by
  induction count with
  | zero => simp
  | succ count ih =>
      have hpage : (query.pageAt length count).page records =
          (records.drop (count * length)).take length := by
        have hroom : ¬ (length : Int) < 0 := by omega
        have hpassed : ((count : Int) * length).toNat = count * length := by
          rw [← Int.natCast_mul, Int.toNat_natCast]
        simp [pageAt, page, hroom, hpassed]
      rw [List.range_succ, List.flatMap_append, ih, List.flatMap_singleton, hpage, Nat.succ_mul,
        List.take_add]

end HistoryQuery

namespace Store

variable {store : Store} {query : HistoryQuery}

/-! ## Which queries are answered -/

/-- A query that binds no more variables than are allowed is answered. -/
theorem query_history_of_le (h : query.variableCount ≤ variableLimit) :
    store.queryHistory query = .ok (store.findHistory query) :=
  if_neg (Nat.not_lt.2 h)

/-- A query that binds more variables is refused. -/
theorem query_history_of_lt (h : variableLimit < query.variableCount) :
    store.queryHistory query = .error .variableLimit :=
  if_pos h

/-- A page costs two variables. -/
theorem variable_count_page_at (query : HistoryQuery) (length index : Nat) :
    (query.pageAt length index).variableCount = query.unpaged.variableCount + 2 :=
  rfl

/-- The records of a field are always answered. -/
theorem variable_count_of_field (target : Target) (fieldName : String) :
    (HistoryQuery.ofField target fieldName).variableCount ≤ variableLimit := by
  simp [HistoryQuery.variableCount, HistoryQuery.ofField, HistoryQuery.latestFirst, variableLimit]

/-! ## What is answered -/

/-- The latest record of a field is the first one of its records, the latest first. -/
theorem latest_eq_head (target : Target) (fieldName : String) :
    store.latest? target fieldName =
      (store.findHistory (HistoryQuery.ofField target fieldName)).head? := by
  have hselects : ∀ record : HistoryRecord,
      (record.target = target ∧ record.fieldName = fieldName) ↔
        (HistoryQuery.ofField target fieldName).Selects record := by
    rintro ⟨_, _, ⟨entityType, entityId⟩, _, _, _, _, _, _⟩
    cases target
    simp [HistoryQuery.Selects, HistoryQuery.ofField, HistoryQuery.latestFirst, and_assoc]
  have hpage (records : List HistoryRecord) :
      (HistoryQuery.ofField target fieldName).page records = records := rfl
  rw [findHistory, HistoryQuery.answer, hpage, latest?]
  simp only [hselects]
  rfl

/-- What the answer to a query holds at a position stands in the answer without a page as far
behind as is passed over. -/
theorem find_history_at (query : HistoryQuery) (position : Nat) :
    (store.findHistory query)[position]? =
      if query.Reaches position then
        (store.findHistory query.unpaged)[query.passed + position]?
      else none := by
  rw [findHistory, HistoryQuery.answer_eq_page, HistoryQuery.get_page]
  rfl

/-- It does not matter how often an entity is listed, or where. -/
theorem find_history_congr (hkeys : (store.history.map (·.hid)).Nodup) {query : HistoryQuery}
    {ids : List Int} (hids : ∀ id, id ∈ ids ↔ id ∈ query.entityIds) :
    store.findHistory { query with entityIds := ids } = store.findHistory query := by
  have hsame := ((HistoryQuery.lists_answer hkeys query).of_ids hids).unique
    (HistoryQuery.lists_answer hkeys { query with entityIds := ids })
  rw [findHistory, findHistory, HistoryQuery.answer_eq_page, hsame]
  exact (HistoryQuery.answer_eq_page query store.history).symm

/-- Where a query with a page is allowed, the pages are answered one after the other, and enough of
them put the answer without a page together again. -/
theorem query_history_pages (h : query.unpaged.variableCount + 2 ≤ variableLimit)
    {length count : Nat} (hlength : (store.findHistory query.unpaged).length ≤ count * length) :
    ∃ pages, (List.range count).mapM (fun index =>
        store.queryHistory (query.pageAt length index)) = .ok pages ∧
      pages.flatten = store.findHistory query.unpaged := by
  refine ⟨(List.range count).map fun index => store.findHistory (query.pageAt length index),
    ?_, ?_⟩
  · have hpage : (fun index => store.queryHistory (query.pageAt length index)) =
        fun index => pure (store.findHistory (query.pageAt length index)) := by
      funext index
      exact query_history_of_le (by rwa [variable_count_page_at])
    rw [hpage, List.mapM_pure]
    rfl
  · have hpages := HistoryQuery.flat_map_pages query (store.findHistory query.unpaged) length count
    rw [List.take_of_length_le hlength, List.flatMap_def] at hpages
    rw [← hpages]
    refine congrArg List.flatten (List.map_congr_left fun index _ => ?_)
    exact HistoryQuery.answer_eq_page (query.pageAt length index) store.history

/-- A query is refused exactly if it binds too many variables. Every other one is answered out of
the one list of all records that it selects, each once and in its order, at the offset and within
the limit. Pages of one length put that list together again, as soon as there are enough of them.
How often an entity is listed does not matter as long as the query is answered. The latest record
of a field is the first one that a query for its records answers. -/
theorem query_history_listed (hkeys : (store.history.map (·.hid)).Nodup) :
    (∀ query : HistoryQuery, ∃ found, (∀ other, query.Lists store.history other ↔ other = found) ∧
      found.Nodup ∧
      (variableLimit < query.variableCount → store.queryHistory query = .error .variableLimit) ∧
      (query.variableCount ≤ variableLimit → ∃ answer, store.queryHistory query = .ok answer ∧
        ∀ position, answer[position]? =
          if query.Reaches position then found[query.passed + position]? else none) ∧
      (query.unpaged.variableCount ≤ variableLimit →
        store.queryHistory query.unpaged = .ok found) ∧
      (query.unpaged.variableCount + 2 ≤ variableLimit →
        ∀ length count, found.length ≤ count * length →
          ∃ pages, (List.range count).mapM (fun index =>
              store.queryHistory (query.pageAt length index)) = .ok pages ∧
            pages.flatten = found) ∧
      ∀ ids, (∀ id, id ∈ ids ↔ id ∈ query.entityIds) →
        query.variableCount ≤ variableLimit →
        HistoryQuery.variableCount { query with entityIds := ids } ≤ variableLimit →
          store.queryHistory { query with entityIds := ids } = store.queryHistory query) ∧
    ∀ target fieldName, ∃ answer,
      store.queryHistory (HistoryQuery.ofField target fieldName) = .ok answer ∧
        store.latest? target fieldName = answer.head? := by
  constructor
  · intro query
    have hlists := HistoryQuery.lists_answer hkeys query
    refine ⟨store.findHistory query.unpaged, fun other => ⟨hlists.unique, fun h => h ▸ hlists⟩,
      hlists.nodup, query_history_of_lt, fun hfits => ?_, query_history_of_le,
      fun hfits length count => query_history_pages hfits, fun ids hids hfits hfits' => ?_⟩
    · exact ⟨_, query_history_of_le hfits, find_history_at query⟩
    · rw [query_history_of_le hfits, query_history_of_le hfits', find_history_congr hkeys hids]
  · intro target fieldName
    exact ⟨_, query_history_of_le (variable_count_of_field target fieldName),
      latest_eq_head target fieldName⟩

/-- A record of the state of a node. -/
def nodeRecord (hid node timestamp : Int) : HistoryRecord :=
  ⟨hid, "news", ⟨"node", node⟩, "field_state", "news_draft", "news_live", .user 1, timestamp, none⟩

/-- A store with records of two nodes, two of them of one time. -/
def archived : Store :=
  { empty with
    history := [nodeRecord 1 1 300, nodeRecord 2 1 100, nodeRecord 3 1 200, nodeRecord 4 1 200,
      nodeRecord 5 2 150]
    lastHid := 5 }

/-- The records of the first node, which is listed twice, the earliest first. -/
def ofFirstNode : HistoryQuery :=
  ⟨"node", [1, 1], some "field_state", .ascending, some (-1), some 1⟩

/-- Of the records of one time the later one comes first in ascending order too. -/
theorem lists_of_first_node : ofFirstNode.Lists archived.history
    [nodeRecord 2 1 100, nodeRecord 4 1 200, nodeRecord 3 1 200, nodeRecord 1 1 300] where
  mem_iff record := by
    have hselected : [nodeRecord 2 1 100, nodeRecord 4 1 200, nodeRecord 3 1 200,
        nodeRecord 1 1 300].Perm
          (archived.history.filter fun record => ofFirstNode.Selects record) := by decide
    rw [hselected.mem_iff, List.mem_filter, decide_eq_true_iff]
  ordered := by decide

/-- Two pages hold the records of a node, and a negative limit is none. -/
theorem query_history_listed_archived :
    (archived.history.map (·.hid)).Nodup ∧
      (∃ pages, (List.range 2).mapM (fun index =>
          archived.queryHistory (ofFirstNode.pageAt 3 index)) = .ok pages ∧
        pages.flatten =
          [nodeRecord 2 1 100, nodeRecord 4 1 200, nodeRecord 3 1 200, nodeRecord 1 1 300]) ∧
      (∃ answer, archived.queryHistory ofFirstNode = .ok answer ∧
        answer[0]? = some (nodeRecord 4 1 200)) ∧
      ∃ answer, archived.queryHistory (.ofField ⟨"node", 1⟩ "field_state") = .ok answer ∧
        archived.latest? ⟨"node", 1⟩ "field_state" = answer.head? := by
  have hkeys : (archived.history.map (·.hid)).Nodup := by decide
  obtain ⟨hqueries, hlatest⟩ := query_history_listed hkeys
  obtain ⟨found, hfound, -, -, hanswer, -, hpages, -⟩ := hqueries ofFirstNode
  obtain rfl := (hfound _).1 lists_of_first_node
  obtain ⟨answer, hanswered, hposition⟩ := hanswer (by decide)
  refine ⟨hkeys, hpages (by decide) 3 2 (by decide), ⟨answer, hanswered, ?_⟩, hlatest _ _⟩
  rw [hposition]
  rfl

/-- The records of the first node, which is listed as often as a query may have variables. -/
def ofFirstNodeOften : HistoryQuery :=
  { ofFirstNode with entityIds := List.replicate variableLimit 1 }

/-- The query lists the records that it lists with the node named once, and it is refused. -/
theorem query_history_refused :
    (archived.history.map (·.hid)).Nodup ∧
      ofFirstNodeOften.Lists archived.history
        [nodeRecord 2 1 100, nodeRecord 4 1 200, nodeRecord 3 1 200, nodeRecord 1 1 300] ∧
      archived.queryHistory ofFirstNodeOften = .error .variableLimit := by
  have hlimit : variableLimit ≠ 0 := by decide
  refine ⟨by decide, lists_of_first_node.of_ids fun id => ?_, query_history_of_lt ?_⟩
  · rw [List.mem_replicate]
    simp [hlimit, ofFirstNode]
  · have hlisted : ofFirstNodeOften.entityIds.length = variableLimit := List.length_replicate
    rw [HistoryQuery.variableCount, hlisted]
    omega

end Store

end ContentWorkflow
