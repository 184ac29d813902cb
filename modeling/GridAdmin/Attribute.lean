/-!
# Replica attributes

The catalog describes a replica by twenty-two attributes. A listing shows them
under their query names, in the order of the table; a modification names one
of them and sends the key that the service knows it by. Six attributes say
which replica is meant, so they can be shown but never changed.

## Main results

* `Attribute.mem_of_modifiable?`: a key comes from an attribute of that name that
  does not identify the replica.
-/

namespace GridAdmin

/-- One attribute of a replica: its query name, its modification key, and
whether it identifies the replica. -/
structure Attribute where
  column : String
  key : String
  identifies : Bool
  deriving DecidableEq, Repr

namespace Attribute

/-- All attributes, in the order of a listing. -/
def all : List Attribute :=
  [ ⟨"COLL_ID", "collId", true⟩,
    ⟨"DATA_CREATE_TIME", "dataCreate", false⟩,
    ⟨"DATA_CHECKSUM", "chksum", false⟩,
    ⟨"DATA_EXPIRY", "dataExpiry", false⟩,
    ⟨"DATA_ID", "dataId", true⟩,
    ⟨"DATA_REPL_STATUS", "replStatus", false⟩,
    ⟨"DATA_MAP_ID", "dataMapId", true⟩,
    ⟨"DATA_MODE", "dataMode", false⟩,
    ⟨"DATA_NAME", "dataName", true⟩,
    ⟨"DATA_OWNER_NAME", "dataOwner", false⟩,
    ⟨"DATA_OWNER_ZONE", "dataOwnerZone", false⟩,
    ⟨"DATA_PATH", "filePath", false⟩,
    ⟨"DATA_REPL_NUM", "replNum", false⟩,
    ⟨"DATA_SIZE", "dataSize", false⟩,
    ⟨"DATA_STATUS", "statusString", false⟩,
    ⟨"DATA_TYPE_NAME", "dataType", false⟩,
    ⟨"DATA_VERSION", "version", false⟩,
    ⟨"DATA_MODIFY_TIME", "dataModify", false⟩,
    ⟨"DATA_COMMENTS", "dataComments", false⟩,
    ⟨"DATA_RESC_HIER", "resc_hier", true⟩,
    ⟨"DATA_RESC_ID", "rescId", false⟩,
    ⟨"DATA_RESC_NAME", "rescName", true⟩ ]

/-- The query names, in the order of a listing. -/
def columns : List String := all.map (·.column)

/-- The modification keys, in the order of a listing. -/
def keys : List String := all.map (·.key)

/-- The query names of the attributes that identify a replica. -/
def identifying : List String := (all.filter (·.identifies)).map (·.column)

/-- The key that asks the service to apply a change with administrator rights. -/
def adminKey : String := "irodsAdmin"

/-- The key of the attribute called `column`, if there is one and it may be
changed. -/
def modifiable? (column : String) : Option String :=
  ((all.find? fun a => decide (a.column = column)).filter (!·.identifies)).map (·.key)

theorem mem_of_modifiable? {column key : String} (hKey : modifiable? column = some key) :
    ∃ a ∈ all, a.column = column ∧ a.identifies = false ∧ a.key = key := by
  simp only [modifiable?, Option.map_eq_some_iff, Option.filter_eq_some_iff,
    Bool.not_eq_true'] at hKey
  obtain ⟨a, ⟨hFind, hFree⟩, hEq⟩ := hKey
  exact ⟨a, List.mem_of_find?_eq_some hFind, by simpa using List.find?_some hFind, hFree, hEq⟩

theorem adminKey_not_mem_keys : adminKey ∉ keys := by decide +kernel

end Attribute

end GridAdmin
