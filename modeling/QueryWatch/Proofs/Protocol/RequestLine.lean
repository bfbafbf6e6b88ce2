import QueryWatch.Daemon.Framing
import QueryWatch.Proofs.Json.Form
import QueryWatch.Proofs.Json.Record

/-!
A request is read back from the line it is sent on. The line is the text of an object, whose fields
come in the order of the record (`Request.toList_line`), and a newline, which is the only one
(`Request.newline_not_mem_body`). The request in front of the newline is the one that was sent
(`Framing.parse_line`).
-/

set_option autoImplicit false

namespace QueryWatch

open Text (Bytes)
open Text.Utf8 (encodeChars encodeChars_append)
open Json (Plain Form EndsNumber)

/-! ### Lines -/

namespace Request

/-- The fields of a request in the order in which they are written. -/
def fields (r : Request) : Json.Fields :=
  [("protocol_version", Json.nat r.version), ("method", .string r.method.name),
    ("id", Json.optString r.id), ("params", r.params.getD .null)]

/-- The bytes of a request in front of its newline. -/
def body (r : Request) : Bytes := encodeChars (Json.object r.fields).text

/-- What is in a request can be read back: its version has 32 bits, and parameters that are given
are a plain value, but not null. -/
structure Readable (r : Request) : Prop where
  version_lt : r.version < UInt32.size
  plain : ∀ j ∈ r.params, Plain (Json.maxDepth - 1) j
  ne_null : ∀ j ∈ r.params, j ≠ .null

variable {r : Request}

/-- Absent parameters are written as null, so all that is written is plain. -/
theorem Readable.plain_fields (hr : r.Readable) :
    ∀ p ∈ r.fields, Plain (Json.maxDepth - 1) p.2 := by
  intro p hp
  simp only [fields, List.mem_cons, List.not_mem_nil, or_false] at hp
  rcases hp with rfl | rfl | rfl | rfl
  · exact .nat (Nat.lt_trans hr.version_lt (by decide))
  · exact .string _
  · cases r.id with
    | none => exact .null
    | some s => exact .string s
  · cases hparams : r.params with
    | none => exact .null
    | some j => exact hr.plain j hparams

theorem newline_not_mem_body (hr : r.Readable) : Framing.newline ∉ r.body := fun hmem ↦
  absurd (Json.le_of_mem_encodeChars_object hr.plain_fields hmem) (by decide)

theorem lookup_name (m : Method) : Method.table.lookup m.name = some m := by
  cases m <;> rfl

/-- The fields of a request fill its draft. -/
theorem Readable.fills (hr : r.Readable) {fuel : Nat} (hfuel : r.body.length < fuel) :
    (form fuel).Fills {} r.fields ⟨some r.version, some r.method, some r.id, some r.params⟩ := by
  have hlength : ∀ p ∈ r.fields, (encodeChars p.2.text).length < fuel := fun p hp ↦
    Nat.lt_trans (Json.length_lt_object hp).2 hfuel
  obtain ⟨-, hmethod, hid, hparams, -⟩ := by simpa only [fields, List.forall_mem_cons] using hlength
  have hversion : r.version < UInt64.size := Nat.lt_trans hr.version_lt (by decide)
  have hread : Json.readWord32 (Json.nat r.version) = .ok r.version :=
    Json.readBelow_eq_ok_iff.mpr ⟨hr.version_lt, rfl⟩
  refine .of rfl rfl (fun _ hrest ↦ Json.scanAsNumber_text hversion hread hrest fuel "u32") ?_
  refine .of rfl rfl (fun rest _ ↦ Json.scanVariant_text (lookup_name r.method) hmethod rest) ?_
  refine .of rfl rfl (fun rest _ ↦ Json.scanAsOptional_optString hid "a string" rest) ?_
  refine .of rfl rfl (fun _ hrest ↦ Json.scanAsOptional_getD hr.plain hr.ne_null hparams hrest) ?_
  exact .nil _

/-- A request is read from its bytes. -/
theorem ofBytes_body (hr : r.Readable) : ofBytes r.body = .ok r := by
  have hfuel := Nat.lt_succ_self r.body.length
  have hscan : (form (r.body.length + 1)).scan (r.body.length + 1) Json.maxDepth {} Draft.finish
      (r.body ++ []) = .ok (r, []) :=
    Form.scan_text (hr.fills hfuel) Draft.finish rfl hfuel []
  rw [List.append_nil] at hscan
  unfold ofBytes Json.readWhole
  dsimp only
  rw [hscan]
  rfl

end Request

/-! ### The line of a request -/

namespace Framing

theorem firstLine_append {line : Bytes} (hline : newline ∉ line) :
    firstLine (line ++ [newline]) = line := by
  have hkeep : ∀ b ∈ line, (b != newline) = true := by
    intro b hb
    refine bne_iff_ne.mpr fun heq ↦ hline ?_
    rwa [← heq]
  rw [firstLine, List.takeWhile_append_of_pos hkeep]
  simp

/-- A request starts with a brace, so that it is not blank. -/
theorem parse_line {r : Request} (hr : r.Readable) : parse (r.body ++ [newline]) = .ok r := by
  have hblank : r.body.all isBlankByte = false := by
    rw [Request.body, Json.encodeChars_object]
    rfl
  unfold parse
  rw [firstLine_append (Request.newline_not_mem_body hr)]
  dsimp only
  rw [hblank, if_neg Bool.false_ne_true, Request.ofBytes_body hr]
  rfl

end Framing
end QueryWatch
