import CodeJudge.Json.Decoder

/-!
# Instances

A worker as service discovery knows it.
-/

namespace CodeJudge

open Json (Value Field Record Decoder)

/-- A running instance of a service. -/
structure Instance where
  id : String
  /-- Where it serves, as host and port. -/
  address : String
  deriving DecidableEq, Repr

/-- An instance is written as an object of its fields. -/
def Instance.toJson (instance_ : Instance) : Value :=
  .object [("id", .string instance_.id), ("address", .string instance_.address)]

/-- The fields of an instance. -/
def Instance.record :=
  (Record.also (Field.record { name := "id", decode := Json.text })
  (Field.record { name := "address", decode := Json.text })).map
    fun (id, address) => ({ id, address } : Instance)

/-- Reads an instance. -/
def Instance.decode : Decoder Instance := Instance.record.decode

end CodeJudge
