import GridAdmin.Slots
import GridAdmin.Status

/-!
# Requests

What the shell asks of the service: administrative requests of ten slots,
paged SQL queries, general queries and changes of one replica. Bind values of
a query travel beside its text, never inside it.

The attributes of a replica change are a map from keys to values. The map is
kept as an association list with strictly ascending keys, so that equal maps
are equal values.

## Main results

* `AttributeMap.ofList_entries`: a map is rebuilt from its own entries.
-/

namespace GridAdmin

/-! ## Users -/

/-- The authenticated user of a session. -/
structure UserIdentity where
  name : String
  zone : String
  deriving DecidableEq, Repr

/-- The printed form `name#zone`. -/
def UserIdentity.text (user : UserIdentity) : String :=
  user.name ++ "#" ++ user.zone

/-! ## Administrative requests -/

/-- Number of slots of an administrative request. -/
def AdminRequest.width : Nat := 10

/-- The positional arguments of an administrative request. -/
abbrev AdminRequest := Slots AdminRequest.width

/-- The request with these values in its leading slots. -/
def AdminRequest.ofValues (values : List String) : AdminRequest :=
  Slots.ofWords values

/-! ## Catalog queries -/

/-- One page of an SQL query. The server checks the text against a fixed list. -/
structure SimpleQuery where
  /-- The statement, with `?` for each bind value. -/
  sql : String
  /-- The bind values, in order. -/
  args : List String
  /-- `1` for one value a line, `2` for `name: value` lines. -/
  form : UInt8
  /-- The cursor of the page before; `0` for the first page. -/
  control : Int32
  /-- Largest size of a page, in bytes. -/
  maxBufSize : UInt32
  deriving DecidableEq, Repr

/-- The first page of a query. -/
def SimpleQuery.first (form : UInt8) (sql : String) (args : List String) : SimpleQuery :=
  { sql, args, form, control := 0, maxBufSize := 1024 }

/-! ## Replicas -/

/-- How a request names a data object. -/
inductive DataObject where
  /-- By its catalog identifier. -/
  | withId (id : Int64)
  /-- By its absolute, normalised logical path. -/
  | atPath (path : String)
  deriving DecidableEq, Repr

/-- How a request names one replica of a data object. -/
inductive Replica where
  /-- By its number. -/
  | numbered (number : Int32)
  /-- By the resource hierarchy that holds it. -/
  | inHierarchy (hierarchy : String)
  deriving DecidableEq, Repr

/-- A map of texts whose keys ascend strictly. -/
structure AttributeMap where
  entries : List (String × String)
  ascending : entries.Pairwise fun a b => a.1 < b.1

namespace AttributeMap

instance : DecidableEq AttributeMap := fun first second =>
  if hEntries : first.entries = second.entries then
    isTrue (by cases first; cases second; simp_all)
  else
    isFalse (by rintro rfl; exact hEntries rfl)

@[ext] theorem ext {first second : AttributeMap} (hEntries : first.entries = second.entries) :
    first = second := by
  cases first
  cases second
  simp_all

/-- The map without entries. -/
def empty : AttributeMap := ⟨[], .nil⟩

/-- Insert into ascending entries; an entry with the same key is replaced. -/
def insertEntry (key value : String) : List (String × String) → List (String × String)
  | [] => [(key, value)]
  | entry :: rest =>
      if key < entry.1 then (key, value) :: entry :: rest
      else if key = entry.1 then (key, value) :: rest
      else entry :: insertEntry key value rest

private theorem key_of_mem_insertEntry {key value : String} {entries : List (String × String)}
    {e : String × String} (hMem : e ∈ insertEntry key value entries) :
    e = (key, value) ∨ e ∈ entries := by
  induction entries with
  | nil => simpa [insertEntry] using hMem
  | cons entry rest ih =>
      simp only [insertEntry] at hMem
      split at hMem
      · simpa using hMem
      · split at hMem
        · rcases List.mem_cons.mp hMem with hHead | hTail
          · exact Or.inl hHead
          · exact Or.inr (List.mem_cons_of_mem _ hTail)
        · rcases List.mem_cons.mp hMem with hHead | hTail
          · exact Or.inr (by simp [hHead])
          · rcases ih hTail with hNew | hOld
            · exact Or.inl hNew
            · exact Or.inr (List.mem_cons_of_mem _ hOld)

private theorem ascending_insertEntry (key value : String) {entries : List (String × String)}
    (hAscending : entries.Pairwise fun a b => a.1 < b.1) :
    (insertEntry key value entries).Pairwise fun a b => a.1 < b.1 := by
  induction entries with
  | nil => simp [insertEntry]
  | cons entry rest ih =>
      rw [List.pairwise_cons] at hAscending
      obtain ⟨hHead, hRest⟩ := hAscending
      simp only [insertEntry]
      split
      · rename_i hLess
        refine List.pairwise_cons.mpr ⟨fun e hMem => ?_, List.pairwise_cons.mpr ⟨hHead, hRest⟩⟩
        rcases List.mem_cons.mp hMem with rfl | hTail
        · exact hLess
        · exact String.lt_trans hLess (hHead e hTail)
      · rename_i hNotLess
        split
        · rename_i hSame
          refine List.pairwise_cons.mpr ⟨fun e hMem => ?_, hRest⟩
          simpa [hSame] using hHead e hMem
        · rename_i hDiffer
          refine List.pairwise_cons.mpr ⟨fun e hMem => ?_, ih hRest⟩
          rcases key_of_mem_insertEntry hMem with rfl | hOld
          · exact Std.lt_of_le_of_ne (String.not_lt.mp hNotLess) (Ne.symm hDiffer)
          · exact hHead e hOld

/-- Set the value of `key`. -/
def insert (map : AttributeMap) (key value : String) : AttributeMap where
  entries := insertEntry key value map.entries
  ascending := ascending_insertEntry key value map.ascending

/-- The value of `key`. -/
def get? (map : AttributeMap) (key : String) : Option String :=
  (map.entries.find? fun entry => decide (entry.1 = key)).map (·.2)

/-- The map of these entries; of two entries with one key the later counts. -/
def ofList (entries : List (String × String)) : AttributeMap :=
  entries.foldl (fun map entry => map.insert entry.1 entry.2) empty

private theorem insertEntry_of_all_lt {key value : String} {entries : List (String × String)}
    (hBelow : ∀ e ∈ entries, e.1 < key) :
    insertEntry key value entries = entries ++ [(key, value)] := by
  induction entries with
  | nil => rfl
  | cons entry rest ih =>
      have hLess : entry.1 < key := hBelow entry (by simp)
      have hNotLess : ¬key < entry.1 := fun hAbove =>
        String.lt_irrefl key (String.lt_trans hAbove hLess)
      have hDiffer : key ≠ entry.1 := by
        rintro rfl
        exact String.lt_irrefl _ hLess
      simp [insertEntry, hNotLess, hDiffer, ih fun e hMem => hBelow e (by simp [hMem])]

private theorem entries_foldl_insert (older : AttributeMap) (newer : List (String × String))
    (hAscending : (older.entries ++ newer).Pairwise fun a b => a.1 < b.1) :
    (newer.foldl (fun map entry => map.insert entry.1 entry.2) older).entries
      = older.entries ++ newer := by
  induction newer generalizing older with
  | nil => simp
  | cons entry rest ih =>
      have hBelow : ∀ e ∈ older.entries, e.1 < entry.1 := fun e hMem =>
        (List.pairwise_append.mp hAscending).2.2 e hMem entry (by simp)
      have hInsert : (older.insert entry.1 entry.2).entries = older.entries ++ [entry] :=
        insertEntry_of_all_lt hBelow
      rw [List.foldl_cons, ih, hInsert, List.append_assoc]
      · rfl
      · rw [hInsert, List.append_assoc]
        exact hAscending

/-- A map is rebuilt from its own entries. -/
theorem ofList_entries (map : AttributeMap) : ofList map.entries = map :=
  ext (by simpa [ofList, empty] using entries_foldl_insert empty map.entries map.ascending)

end AttributeMap

/-- A change of the catalog entry of one replica. -/
structure ReplicaUpdate where
  object : DataObject
  replica : Replica
  /-- Modification keys and their new values. -/
  attributes : AttributeMap
  deriving DecidableEq

end GridAdmin
