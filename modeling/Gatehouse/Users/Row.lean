import Gatehouse.Json.Basic
import Gatehouse.Time.Instant

/-! The record of a user as the database keeps it and as the service writes it. -/

namespace Gatehouse.Users

open Time

structure UserRow where
  id : Int
  name : String
  email : String
  createdAt : Instant
  updatedAt : Instant
  deriving DecidableEq, Repr

/-- A user as the service writes it. -/
def UserRow.toJson (row : UserRow) : Json :=
  .record [("id", .int row.id), ("name", .text row.name), ("email", .text row.email),
    ("created_at", .text row.createdAt.text), ("updated_at", .text row.updatedAt.text)]

end Gatehouse.Users
