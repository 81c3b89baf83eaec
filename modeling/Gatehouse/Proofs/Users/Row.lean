import Gatehouse.Proofs.Json.Compact
import Gatehouse.Proofs.Time.Timestamp
import Gatehouse.Users.Row

/-! The record of a user as it is written.  The text says all that the row says, so the row can be
read back from it, and different rows have different texts. -/

namespace Gatehouse.Users

open Text Time

theorem UserRow.toJson_inj {row other : UserRow} : row.toJson = other.toJson ↔ row = other := by
  obtain ⟨id, name, email, createdAt, updatedAt⟩ := row
  obtain ⟨id', name', email', createdAt', updatedAt'⟩ := other
  simp [toJson, Instant.text_inj]

/-- The text of a row is a record with the five members in their order.  Its texts are those of the
row, its timestamps stand for the instants of the row, and no other row has this text. -/
theorem row_read_back (row : UserRow) :
    (∃ created updated,
      Json.parse? (Utf8.encode row.toJson.compact) =
        some (.record [("id", .int row.id), ("name", .text row.name), ("email", .text row.email),
          ("created_at", .text created), ("updated_at", .text updated)]) ∧
      Instant.ofText? created = some row.createdAt ∧
      Instant.ofText? updated = some row.updatedAt) ∧
    ∀ other : UserRow, other.toJson.compact = row.toJson.compact ↔ other = row := by
  refine ⟨⟨row.createdAt.text, row.updatedAt.text, Json.parse?_compact _,
    Instant.ofText?_text _, Instant.ofText?_text _⟩, fun other => ?_⟩
  rw [Json.compact_inj, UserRow.toJson_inj]

end Gatehouse.Users
