import ContentWorkflow.Proofs.Store.Keys

/-!
# Kept items in two tables

An item can be kept as one row of its own and one row for each of its fields. Saving it then writes
its row and the rows of its fields one by one, over the rows with their keys, and forgets none. The
tables of a store (`itemTables`) go on to be split from what the store keeps (`Splits.save`), so
after any saves an item that is loaded from both of them and the items that are listed from the
table of the fields alone are those of the store (`Splits.load`, `Splits.in_state`). The main
theorem is `saves_found_and_listed`.
-/

namespace ContentWorkflow

namespace Dictionary

variable {dictionary : Dictionary} {pairs : List (String × String)} {key value : String}

/-! ## Entries of a dictionary -/

/-- Where no two pairs have the same key, a key finds the value of its pair. -/
theorem lookup_eq_some_iff_mem (h : pairs.Pairwise fun first second => first.1 ≠ second.1) :
    pairs.lookup key = some value ↔ (key, value) ∈ pairs := by
  induction pairs with
  | nil => simp
  | cons first rest ih =>
      obtain ⟨name, text⟩ := first
      obtain ⟨hfirst, hrest⟩ := List.pairwise_cons.1 h
      by_cases hkey : key = name
      · subst hkey
        have hnone : (key, value) ∉ rest := fun hmem => hfirst _ hmem rfl
        simp [hnone, eq_comm]
      · have hbeq : (key == name) = false := by simpa using hkey
        simp [List.lookup_cons, hbeq, hkey, ih hrest]

theorem get_of_list (h : pairs.Pairwise fun first second => first.1 ≠ second.1) (key : String) :
    (ofList pairs).get? key = pairs.lookup key := by
  rw [ofList, get_foldl_insert h, get_empty, Option.or_none]

theorem mem_entries : (key, value) ∈ dictionary.entries ↔ dictionary.get? key = some value :=
  (lookup_eq_some_iff_mem dictionary.keys_differ).symm

theorem mem_keys : key ∈ dictionary.keys ↔ ∃ value, dictionary.get? key = some value := by
  simp [keys, ← mem_entries]

theorem not_mem_keys : key ∉ dictionary.keys ↔ dictionary.get? key = none := by
  rw [mem_keys, ← Option.isSome_iff_exists, Option.not_isSome_iff_eq_none]

/-- A dictionary is known by what is found in it, because its entries stand in order. -/
theorem ext_get {first second : Dictionary} (h : ∀ key, first.get? key = second.get? key) :
    first = second := by
  have hnodup (dictionary : Dictionary) : dictionary.entries.Nodup :=
    dictionary.keys_differ.imp fun hkeys hsame => hkeys (congrArg Prod.fst hsame)
  have hperm : first.entries.Perm second.entries := by
    rw [List.perm_ext_iff_of_nodup (hnodup first) (hnodup second)]
    rintro ⟨key, value⟩
    rw [mem_entries, mem_entries, h]
  have hentries : first.entries = second.entries :=
    hperm.eq_of_pairwise (fun _ _ _ _ hlt hgt => absurd hgt (String.lt_asymm hlt))
      first.increasing second.increasing
  cases first
  cases second
  cases hentries
  rfl

end Dictionary

/-! ## Tables -/

/-- The row of an item, without its fields. -/
structure HeadRow where
  target : Target
  owner : Option Int
  changed : Int

/-- The row of a field of an item. -/
structure FieldRow where
  target : Target
  fieldName : String
  value : String

/-- A field of an item has one row. -/
def FieldRow.key (row : FieldRow) : Target × String :=
  (row.target, row.fieldName)

/-- The tables with what is kept of the items. -/
structure ItemTables where
  heads : List HeadRow
  fields : List FieldRow

/-- The table with the row in place of the row with its key, or behind the rows where none has it.
-/
def upsert {ρ κ : Type} [DecidableEq κ] (key : ρ → κ) (row : ρ) (rows : List ρ) : List ρ :=
  if ∃ other ∈ rows, key other = key row then
    rows.map fun other => if key other = key row then row else other
  else rows ++ [row]

section Upsert

variable {ρ κ : Type} [DecidableEq κ] {key : ρ → κ} {row other : ρ} {rows : List ρ}

/-- The row takes the place of every row with its key. -/
theorem mem_upsert :
    other ∈ upsert key row rows ↔ other = row ∨ other ∈ rows ∧ key other ≠ key row := by
  rw [upsert]
  split
  · next hkept =>
      obtain ⟨kept, hkept, hkey⟩ := hkept
      rw [List.mem_map]
      constructor
      · rintro ⟨before, hbefore, rfl⟩
        split
        · exact Or.inl rfl
        · next hother => exact Or.inr ⟨hbefore, hother⟩
      · rintro (rfl | ⟨hmem, hother⟩)
        · exact ⟨kept, hkept, if_pos hkey⟩
        · exact ⟨other, hmem, if_neg hother⟩
  · next hnew =>
      rw [List.mem_append, List.mem_singleton, or_comm]
      refine or_congr_right ⟨fun hmem => ⟨hmem, fun hkey => hnew ⟨other, hmem, hkey⟩⟩, And.left⟩

theorem nodup_upsert (h : (rows.map key).Nodup) : ((upsert key row rows).map key).Nodup := by
  rw [upsert]
  split
  · rw [Store.map_change_rows fun other _ => ?_]
    · exact h
    · split
      · next hkey => exact hkey.symm
      · rfl
  · next hnew =>
      exact Store.nodup_add_row h fun other hmem hkey => hnew ⟨other, hmem, hkey⟩

end Upsert

/-- The row of the item without its fields. -/
def ItemRow.head (row : ItemRow) : HeadRow :=
  ⟨row.target, row.owner, row.changed⟩

namespace ItemTables

/-- The rows with the named field of the item written over the row that it has. A field that is
unset is written as the empty text. -/
def writeField (item : Item) (rows : List FieldRow) (fieldName : String) : List FieldRow :=
  upsert FieldRow.key ⟨item.target, fieldName, (item.fieldValue? fieldName).getD ""⟩ rows

/-- The item is saved: its row is written, and then its fields one after another. -/
def save (tables : ItemTables) (item : Item) : ItemTables where
  heads := upsert HeadRow.target ⟨item.target, item.owner, item.changed⟩ tables.heads
  fields := item.fields.keys.foldl (writeField item) tables.fields

/-- The items are saved one after another. -/
def saveAll (tables : ItemTables) (saves : List Item) : ItemTables :=
  saves.foldl save tables

/-- The names and values in the rows of the fields of an item. -/
def entriesOf (tables : ItemTables) (target : Target) : List (String × String) :=
  (tables.fields.filter (·.target = target)).map fun row => (row.fieldName, row.value)

/-- The item that the target names, with the fields of all its rows. -/
def load? (tables : ItemTables) (target : Target) : Option Item :=
  (tables.heads.find? (·.target = target)).map fun head =>
    { target := target
      owner := head.owner
      changed := head.changed
      fields := Dictionary.ofList (tables.entriesOf target)
      isNew := false }

/-- The numbers of the items of the type with a row that holds the state in the field, in ascending
order. -/
def inState (tables : ItemTables) (entityType fieldName sid : String) : List Int :=
  ((tables.fields.filter fun row =>
      row.target.entityType = entityType ∧ row.fieldName = fieldName ∧ row.value = sid).map
    (·.target.entityId)).mergeSort fun first second => decide (first ≤ second)

end ItemTables

/-! ## Fields of a saved item -/

/-- The field of an item is written as it is, because a field that is unset is empty. -/
theorem Item.get_fields {item : Item} {fieldName value : String} :
    item.fields.get? fieldName = some value ↔
      fieldName ∈ item.fields.keys ∧ value = (item.fieldValue? fieldName).getD "" := by
  rw [Dictionary.mem_keys, fieldValue?]
  cases hfield : item.fields.get? fieldName with
  | none => simp
  | some held =>
      by_cases hempty : held = "" <;> simp [Option.filter, hempty, eq_comm]

namespace Store

variable {store : Store} {item : Item} {row : FieldRow} {target : Target}
  {entityType fieldName sid : String}

/-- The items are saved one after another. -/
def saveAll (store : Store) (saves : List Item) : Store :=
  saves.foldl saveItem store

theorem Keyed.save_all (hkeys : store.Keyed) (saves : List Item) : (store.saveAll saves).Keyed := by
  induction saves generalizing store with
  | nil => exact hkeys
  | cons item rest ih => exact ih (hkeys.save_item item)

/-- The store keeps the value of the row in its field. -/
def Keeps (store : Store) (row : FieldRow) : Prop :=
  ∃ kept ∈ store.items, kept.target = row.target ∧ kept.fields.get? row.fieldName = some row.value

/-- What a saved item names in its fields comes before what was kept. -/
theorem get_saved (fieldName : String) :
    (store.saved item).fields.get? fieldName =
      (item.fields.get? fieldName).or
        ((store.item? item.target).bind (·.fields.get? fieldName)) := by
  rw [saved]
  cases store.item? item.target <;> simp

/-- An item is found where some row has its target. -/
theorem item_is_some_iff :
    (store.item? target).isSome ↔ ∃ kept ∈ store.items, kept.target = target := by
  simp [item?]

/-- A saved item has the row that it had, updated, or a row of its own where it had none. Every
other row stays. -/
theorem mem_items_save_item {kept : ItemRow} :
    kept ∈ (store.saveItem item).items ↔
      kept ∈ store.items ∧ kept.target ≠ item.target ∨
      (∃ before ∈ store.items, before.target = item.target ∧ kept = before.update item) ∨
      (∀ before ∈ store.items, before.target ≠ item.target) ∧ kept = .of item := by
  rw [saveItem]
  dsimp only
  split
  · next hkept =>
      obtain ⟨row, hrow, htarget⟩ := item_is_some_iff.1 hkept
      have hnot : ¬ ∀ before ∈ store.items, before.target ≠ item.target :=
        fun hnone => hnone row hrow htarget
      simp only [List.mem_map, hnot, false_and, or_false]
      constructor
      · rintro ⟨before, hbefore, rfl⟩
        split
        · next hsame => exact Or.inr ⟨before, hbefore, hsame, rfl⟩
        · next hother => exact Or.inl ⟨hbefore, hother⟩
      · rintro (⟨hmem, hother⟩ | ⟨before, hbefore, hsame, rfl⟩)
        · exact ⟨kept, hmem, if_neg hother⟩
        · exact ⟨before, hbefore, if_pos hsame⟩
  · next hnew =>
      have hnone : ∀ before ∈ store.items, before.target ≠ item.target :=
        fun before hbefore hsame => hnew (item_is_some_iff.2 ⟨before, hbefore, hsame⟩)
      simp only [List.mem_append, List.mem_singleton]
      grind

/-- A saved item brings its fields, and spares every other. -/
theorem keeps_save_item :
    (store.saveItem item).Keeps row ↔
      row.target = item.target ∧ item.fields.get? row.fieldName = some row.value ∨
      store.Keeps row ∧ ¬ (row.target = item.target ∧ row.fieldName ∈ item.fields.keys) := by
  constructor
  · rintro ⟨kept, hkept, htarget, hvalue⟩
    obtain ⟨hmem, hother⟩ | ⟨before, hbefore, hsame, rfl⟩ | ⟨-, rfl⟩ := mem_items_save_item.1 hkept
    · exact Or.inr ⟨⟨kept, hmem, htarget, hvalue⟩, fun hrow => hother (htarget.trans hrow.1)⟩
    · rw [ItemRow.update, Dictionary.get_union, Option.or_eq_some_iff] at hvalue
      obtain hown | ⟨hnone, hbefore'⟩ := hvalue
      · exact Or.inl ⟨htarget.symm.trans hsame, hown⟩
      · exact Or.inr ⟨⟨before, hbefore, htarget, hbefore'⟩,
          fun hrow => Dictionary.not_mem_keys.2 hnone hrow.2⟩
    · exact Or.inl ⟨htarget.symm, hvalue⟩
  · rintro (⟨htarget, hvalue⟩ | ⟨⟨kept, hkept, htarget, hvalue⟩, hspared⟩)
    · by_cases hbefore : ∃ before ∈ store.items, before.target = item.target
      · obtain ⟨before, hbefore, hsame⟩ := hbefore
        exact ⟨before.update item,
          mem_items_save_item.2 (.inr (.inl ⟨before, hbefore, hsame, rfl⟩)),
          hsame.trans htarget.symm, by simp [ItemRow.update, hvalue]⟩
      · simp only [not_exists, not_and] at hbefore
        exact ⟨.of item, mem_items_save_item.2 (.inr (.inr ⟨hbefore, rfl⟩)), htarget.symm, hvalue⟩
    · by_cases hsame : kept.target = item.target
      · have hnone := Dictionary.not_mem_keys.1 fun hnamed =>
          hspared ⟨htarget.symm.trans hsame, hnamed⟩
        exact ⟨kept.update item, mem_items_save_item.2 (.inr (.inl ⟨kept, hkept, hsame, rfl⟩)),
          htarget, by simp [ItemRow.update, hnone, hvalue]⟩
      · exact ⟨kept, mem_items_save_item.2 (.inl ⟨hkept, hsame⟩), htarget, hvalue⟩

/-! ## Items that are listed -/

/-- A field holds a state where the row of its item does. -/
theorem Keyed.field_value_iff (hkeys : store.Keyed) (hsid : sid ≠ "") :
    store.fieldValue? target fieldName = some sid ↔
      ∃ row ∈ store.items, row.target = target ∧ row.fields.get? fieldName = some sid := by
  constructor
  · intro h
    obtain ⟨item, hitem, hvalue⟩ := Option.bind_eq_some_iff.1 h
    obtain ⟨row, hrow, rfl⟩ := Option.map_eq_some_iff.1 hitem
    exact ⟨row, List.mem_of_find?_eq_some hrow, by simpa using List.find?_some hrow,
      (Option.filter_eq_some_iff.1 hvalue).1⟩
  · rintro ⟨row, hrow, rfl, hvalue⟩
    have hfound : store.items.find? (·.target = row.target) = some row :=
      find_keyed hkeys.items hrow
    simp [fieldValue?, item?, hfound, Item.fieldValue?, ItemRow.toItem, hvalue, hsid]

/-- The items that are listed for a text are those that keep it. -/
theorem keeps_iff_mem_items_in_state {id : Int} :
    store.Keeps ⟨⟨entityType, id⟩, fieldName, sid⟩ ↔
      id ∈ store.itemsInState entityType fieldName sid := by
  rw [itemsInState, List.mem_mergeSort, List.mem_map]
  constructor
  · rintro ⟨row, hrow, htarget, hvalue⟩
    exact ⟨row, List.mem_filter.2 ⟨hrow, by simp [htarget, hvalue]⟩, by rw [htarget]⟩
  · rintro ⟨row, hrow, rfl⟩
    obtain ⟨hkept, hheld⟩ := List.mem_filter.1 hrow
    obtain ⟨rfl, hvalue⟩ := of_decide_eq_true hheld
    exact ⟨row, hkept, rfl, hvalue⟩

/-- The items that are listed for a state are those that hold it. -/
theorem Keyed.mem_items_in_state (hkeys : store.Keyed) (hsid : sid ≠ "") {id : Int} :
    id ∈ store.itemsInState entityType fieldName sid ↔
      store.fieldValue? ⟨entityType, id⟩ fieldName = some sid := by
  rw [hkeys.field_value_iff hsid, ← keeps_iff_mem_items_in_state, Keeps]

/-- No item is listed twice for a state. -/
theorem Keyed.nodup_items_in_state (hkeys : store.Keyed) :
    (store.itemsInState entityType fieldName sid).Nodup := by
  rw [itemsInState, (List.mergeSort_perm _ _).nodup_iff]
  refine List.Nodup.map_on ?_ ((hkeys.items.of_map _).filter _)
  intro row hrow other hother hid
  obtain ⟨hrow, hheld⟩ := List.mem_filter.1 hrow
  obtain ⟨hother, hheld'⟩ := List.mem_filter.1 hother
  -- both are items of the type, so the number tells them apart
  obtain ⟨htype, -⟩ := of_decide_eq_true hheld
  obtain ⟨htype', -⟩ := of_decide_eq_true hheld'
  refine List.inj_on_of_nodup_map hkeys.items hrow hother ?_
  show (⟨row.target.entityType, row.target.entityId⟩ : Target) =
    ⟨other.target.entityType, other.target.entityId⟩
  rw [htype, htype', hid]

/-- A field of a kept item keeps what the row of the item does. -/
theorem Keyed.keeps_iff (hkeys : store.Keyed) {kept : ItemRow} (hkept : kept ∈ store.items)
    {value : String} : store.Keeps ⟨kept.target, fieldName, value⟩ ↔
      kept.fields.get? fieldName = some value := by
  constructor
  · rintro ⟨other, hother, htarget, hvalue⟩
    rwa [List.inj_on_of_nodup_map hkeys.items hkept hother htarget.symm]
  · exact fun hvalue => ⟨kept, hkept, rfl, hvalue⟩

/-- Numbers are sorted in ascending order. -/
theorem sorted_ids (ids : List Int) :
    (ids.mergeSort fun first second => decide (first ≤ second)).Pairwise (· ≤ ·) :=
  pairwise_sorted (· ≤ ·) Int.le_trans Int.le_total ids

/-- Items are listed in ascending order, each once. -/
theorem Keyed.items_in_state_increasing (hkeys : store.Keyed) :
    (store.itemsInState entityType fieldName sid).Pairwise (· < ·) :=
  List.Pairwise.imp₂ (fun _ _ hle hne => Int.lt_iff_le_and_ne.2 ⟨hle, hne⟩) (sorted_ids _)
    hkeys.nodup_items_in_state

end Store

/-! ## Tables that a store is split into -/

namespace ItemTables

variable {tables : ItemTables} {store : Store} {item : Item} {row : FieldRow}
  {rows : List FieldRow} {names : List String}

/-- After the named fields of the item were written their rows hold what the item has, and every
other row is as before. -/
theorem mem_foldl_write_field :
    row ∈ names.foldl (writeField item) rows ↔
      row.target = item.target ∧ row.fieldName ∈ names ∧
        row.value = (item.fieldValue? row.fieldName).getD "" ∨
      row ∈ rows ∧ ¬ (row.target = item.target ∧ row.fieldName ∈ names) := by
  induction names generalizing rows with
  | nil => simp
  | cons name rest ih =>
      have hwritten : row = ⟨item.target, name, (item.fieldValue? name).getD ""⟩ ↔
          row.target = item.target ∧ row.fieldName = name ∧
            row.value = (item.fieldValue? row.fieldName).getD "" := by
        grind [FieldRow]
      have hkey : row.key = FieldRow.key ⟨item.target, name, (item.fieldValue? name).getD ""⟩ ↔
          row.target = item.target ∧ row.fieldName = name := by
        simp [FieldRow.key]
      rw [List.foldl_cons, ih, writeField, mem_upsert, ne_eq, hkey, hwritten, List.mem_cons]
      tauto

theorem nodup_foldl_write_field (h : (rows.map FieldRow.key).Nodup) :
    ((names.foldl (writeField item) rows).map FieldRow.key).Nodup := by
  induction names generalizing rows with
  | nil => exact h
  | cons name rest ih => exact ih (nodup_upsert h)

theorem mem_entries_of {target : Target} {name value : String} :
    (name, value) ∈ tables.entriesOf target ↔ ⟨target, name, value⟩ ∈ tables.fields := by
  simp only [entriesOf, List.mem_map, List.mem_filter, decide_eq_true_eq]
  constructor
  · rintro ⟨row, ⟨hrow, rfl⟩, hentry⟩
    obtain ⟨rfl, rfl⟩ := Prod.mk.inj hentry
    exact hrow
  · exact fun hrow => ⟨_, ⟨hrow, rfl⟩, rfl⟩

/-- A field of an item has one row, so no two entries of the item have one name. -/
theorem entries_differ (h : (tables.fields.map FieldRow.key).Nodup) (target : Target) :
    (tables.entriesOf target).Pairwise fun first second => first.1 ≠ second.1 := by
  rw [entriesOf, List.pairwise_map, List.pairwise_filter]
  refine (List.pairwise_map.1 h).imp fun hkey hfirst hsecond hname => hkey ?_
  exact Prod.ext ((of_decide_eq_true hfirst).trans (of_decide_eq_true hsecond).symm) hname

/-- The items that are listed for a state are those of the rows that hold it. -/
theorem mem_in_state {entityType fieldName sid : String} {id : Int} :
    id ∈ tables.inState entityType fieldName sid ↔
      ⟨⟨entityType, id⟩, fieldName, sid⟩ ∈ tables.fields := by
  simp only [inState, List.mem_mergeSort, List.mem_map, List.mem_filter, decide_eq_true_eq]
  constructor
  · rintro ⟨⟨⟨type, number⟩, name, value⟩, ⟨hrow, rfl, rfl, rfl⟩, rfl⟩
    exact hrow
  · exact fun hrow => ⟨_, ⟨hrow, rfl, rfl, rfl⟩, rfl⟩

/-- A field of an item has one row, so no item is listed twice for a state. -/
theorem nodup_in_state (h : (tables.fields.map FieldRow.key).Nodup)
    {entityType fieldName sid : String} : (tables.inState entityType fieldName sid).Nodup := by
  rw [inState, (List.mergeSort_perm _ _).nodup_iff, List.Nodup, List.pairwise_map,
    List.pairwise_filter]
  refine (List.pairwise_map.1 h).imp fun {first second} hkey hfirst hsecond hid => hkey ?_
  obtain ⟨htype, hname, -⟩ := of_decide_eq_true hfirst
  obtain ⟨htype', hname', -⟩ := of_decide_eq_true hsecond
  refine Prod.ext ?_ (hname.trans hname'.symm)
  show (⟨first.target.entityType, first.target.entityId⟩ : Target) =
    ⟨second.target.entityType, second.target.entityId⟩
  rw [htype, htype', hid]

/-- The tables hold the items of the store, split into their rows and the rows of their fields. -/
structure Splits (tables : ItemTables) (store : Store) : Prop where
  heads : tables.heads = store.items.map (·.head)
  fields : ∀ row, row ∈ tables.fields ↔ store.Keeps row
  keyed : (tables.fields.map FieldRow.key).Nodup

/-- The row of the item is written as the item is kept. -/
theorem upsert_heads :
    upsert HeadRow.target ⟨item.target, item.owner, item.changed⟩ (store.items.map (·.head)) =
      (store.saveItem item).items.map (·.head) := by
  have hkept : (∃ other ∈ store.items.map (·.head), other.target = item.target) ↔
      (store.item? item.target).isSome := by
    simp [Store.item_is_some_iff, ItemRow.head]
  rw [upsert, Store.saveItem]
  simp only [hkept]
  split
  · rw [List.map_map, List.map_map]
    refine List.map_congr_left fun kept _ => ?_
    by_cases hsame : kept.target = item.target <;>
      simp [ItemRow.head, ItemRow.update, hsame]
  · rw [List.map_append]
    rfl

theorem Splits.save (h : tables.Splits store) (item : Item) :
    (tables.save item).Splits (store.saveItem item) := by
  refine ⟨?_, fun row => ?_, nodup_foldl_write_field h.keyed⟩
  · rw [ItemTables.save, h.heads, upsert_heads]
  · rw [ItemTables.save, mem_foldl_write_field, h.fields, Store.keeps_save_item, Item.get_fields]

/-- Saves keep the tables split from the store. -/
theorem Splits.save_all (h : tables.Splits store) (saves : List Item) :
    (tables.saveAll saves).Splits (store.saveAll saves) := by
  induction saves generalizing tables store with
  | nil => exact h
  | cons item rest ih => exact ih (h.save item)

/-- An item is loaded from its row and the rows of its fields as it is found in the store. -/
theorem Splits.load (h : tables.Splits store) (hkeys : store.Keyed) (target : Target) :
    tables.load? target = store.item? target := by
  have hhead : tables.heads.find? (fun head => decide (head.target = target)) =
      (store.items.find? (·.target = target)).map (·.head) := by
    rw [h.heads, List.find?_map]
    rfl
  rw [load?, Store.item?, hhead]
  cases hfound : store.items.find? (·.target = target) with
  | none => rfl
  | some kept =>
      have hmem := List.mem_of_find?_eq_some hfound
      obtain rfl : kept.target = target := by simpa using List.find?_some hfound
      have hfields : Dictionary.ofList (tables.entriesOf kept.target) = kept.fields := by
        have hnames := entries_differ h.keyed kept.target
        refine Dictionary.ext_get fun name => Option.ext fun value => ?_
        rw [Dictionary.get_of_list hnames, Dictionary.lookup_eq_some_iff_mem hnames, mem_entries_of,
          h.fields, hkeys.keeps_iff hmem]
      simp only [Option.map_some, hfields]
      rfl

/-- The items that the rows of the fields list for a state are those that the store lists. -/
theorem Splits.in_state (h : tables.Splits store) (hkeys : store.Keyed)
    (entityType fieldName sid : String) :
    tables.inState entityType fieldName sid = store.itemsInState entityType fieldName sid := by
  have hmem (id : Int) : id ∈ tables.inState entityType fieldName sid ↔
      id ∈ store.itemsInState entityType fieldName sid := by
    rw [mem_in_state, h.fields, Store.keeps_iff_mem_items_in_state]
  have hperm : (tables.inState entityType fieldName sid).Perm
      (store.itemsInState entityType fieldName sid) :=
    (List.perm_ext_iff_of_nodup (nodup_in_state h.keyed) hkeys.nodup_items_in_state).2 hmem
  exact hperm.eq_of_pairwise (fun _ _ _ _ => Int.le_antisymm) (Store.sorted_ids _)
    (Store.sorted_ids _)

end ItemTables

/-- The rows that the items of the store are split into. -/
def Store.itemTables (store : Store) : ItemTables where
  heads := store.items.map (·.head)
  fields := store.items.flatMap fun kept =>
    kept.fields.entries.map fun entry => ⟨kept.target, entry.1, entry.2⟩

theorem Store.Keyed.splits_item_tables {store : Store} (hkeys : store.Keyed) :
    store.itemTables.Splits store := by
  refine ⟨rfl, fun row => ?_, ?_⟩
  · simp only [itemTables, List.mem_flatMap, List.mem_map]
    constructor
    · rintro ⟨kept, hkept, entry, hentry, rfl⟩
      exact ⟨kept, hkept, rfl, Dictionary.mem_entries.1 hentry⟩
    · rintro ⟨kept, hkept, htarget, hvalue⟩
      exact ⟨kept, hkept, (row.fieldName, row.value), Dictionary.mem_entries.2 hvalue, by
        rw [htarget]⟩
  · rw [itemTables, List.map_flatMap, List.nodup_flatMap]
    refine ⟨fun kept _ => ?_, ?_⟩
    · rw [List.map_map, List.Nodup, List.pairwise_map]
      exact kept.fields.keys_differ.imp fun hkey hsame => hkey (congrArg Prod.snd hsame)
    · refine (List.pairwise_map.1 hkeys.items).imp fun {first second} htarget => ?_
      refine List.disjoint_left.2 fun key hfirst hsecond => ?_
      simp only [List.mem_map] at hfirst hsecond
      obtain ⟨row, ⟨entry, hentry, rfl⟩, rfl⟩ := hfirst
      obtain ⟨row, ⟨entry', hentry', rfl⟩, hkey⟩ := hsecond
      exact htarget (congrArg Prod.fst hkey).symm

namespace Store

/-- A saved item is found with the owner, the time and the values that it was saved with, and with
what was kept in the fields that it does not name, while every other item stays as it was. However
many items are saved, they are loaded from two tables as they are found in the store, and what one
of these tables lists for a state is, in ascending order and each once, the items that are found to
hold it. -/
theorem saves_found_and_listed (store : Store) :
    (∀ item : Item,
      (∃ kept, (store.saveItem item).item? item.target = some kept ∧
        kept.target = item.target ∧ kept.owner = item.owner ∧ kept.changed = item.changed ∧
        kept.isNew = false ∧
        (∀ fieldName ∈ item.fields.keys,
          kept.fieldValue? fieldName = item.fieldValue? fieldName) ∧
        ∀ fieldName, fieldName ∉ item.fields.keys →
          kept.fields.get? fieldName =
            (store.item? item.target).bind (·.fields.get? fieldName)) ∧
      ∀ target, target ≠ item.target →
        (store.saveItem item).item? target = store.item? target) ∧
    (store.Keyed → ∀ saves : List Item,
      (∀ target,
        (store.itemTables.saveAll saves).load? target = (store.saveAll saves).item? target) ∧
      ∀ entityType fieldName sid,
        (store.itemTables.saveAll saves).inState entityType fieldName sid =
          (store.saveAll saves).itemsInState entityType fieldName sid ∧
        (sid ≠ "" →
          ((store.saveAll saves).itemsInState entityType fieldName sid).Pairwise (· < ·) ∧
          ∀ id, id ∈ (store.saveAll saves).itemsInState entityType fieldName sid ↔
            ∃ kept, (store.saveAll saves).item? ⟨entityType, id⟩ = some kept ∧
              kept.fieldValue? fieldName = some sid)) := by
  refine ⟨fun item => ⟨?_, fun target hother => item_save_item_of_ne hother⟩, fun hkeys saves => ?_⟩
  · refine ⟨store.saved item, item_save_item item, rfl, rfl, rfl, rfl, fun fieldName hnamed => ?_,
      fun fieldName hunnamed => ?_⟩
    · rw [Item.fieldValue?, get_saved, Item.fieldValue?]
      obtain ⟨value, hvalue⟩ := Dictionary.mem_keys.1 hnamed
      rw [hvalue, Option.some_or]
    · rw [get_saved, Dictionary.not_mem_keys.1 hunnamed, Option.none_or]
  · have hreached := hkeys.save_all saves
    have hsplit := hkeys.splits_item_tables.save_all saves
    refine ⟨hsplit.load hreached, fun entityType fieldName sid => ?_⟩
    refine ⟨?_, fun hsid => ⟨?_, fun id => ?_⟩⟩
    · exact hsplit.in_state hreached entityType fieldName sid
    · exact hreached.items_in_state_increasing
    · rw [hreached.mem_items_in_state hsid, fieldValue?, Option.bind_eq_some_iff]

/-- A new node is saved with an empty note, and a note is saved for the node of the small site. -/
def smallSaves : List Item :=
  [⟨⟨"node", 7⟩, none, 20,
      Dictionary.ofList [("field_state", "news_draft"), ("field_note", "")], true⟩,
    ⟨⟨"node", 1⟩, some 4, 30, Dictionary.ofList [("field_note", "new")], false⟩]

/-- Both nodes of the small site are listed in the state of draft, the second although it was saved
without its state. -/
theorem saves_found_and_listed_small :
    small.Keyed ∧ "news_draft" ≠ "" ∧
      ((small.saveAll smallSaves).itemsInState "node" "field_state" "news_draft").Pairwise (· < ·) ∧
      7 ∈ (small.saveAll smallSaves).itemsInState "node" "field_state" "news_draft" ∧
      1 ∈ (small.saveAll smallSaves).itemsInState "node" "field_state" "news_draft" ∧
      (small.itemTables.saveAll smallSaves).load? ⟨"node", 7⟩ =
        (small.saveAll smallSaves).item? ⟨"node", 7⟩ := by
  obtain ⟨hload, hlist⟩ := (saves_found_and_listed small).2 keyed_small smallSaves
  obtain ⟨-, hdraft⟩ := hlist "node" "field_state" "news_draft"
  obtain ⟨hsorted, hmem⟩ := hdraft (by decide)
  exact ⟨keyed_small, by decide, hsorted, (hmem 7).2 ⟨_, rfl, by decide⟩,
    (hmem 1).2 ⟨_, rfl, by decide⟩, hload ⟨"node", 7⟩⟩

end Store

end ContentWorkflow
