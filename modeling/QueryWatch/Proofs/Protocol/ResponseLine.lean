import QueryWatch.Daemon.Framing
import QueryWatch.Operator.Client
import QueryWatch.Proofs.Json.Form

/-!
An answer is read back from the line it is written on. The line is the text of an object, whose
fields come in the order of the record with the absent ones left out, and a newline, which is the
only one (`Response.newline_not_mem_body`). Fields that are left out leave the draft of the answer
as it is (`Json.Form.Fills.present`), so what is read from the object is the answer
(`Response.ofBytes_body`), and if it is not too long the operator's client takes it from the bytes
that come back (`Client.readAnswer_line`).
-/

set_option autoImplicit false

namespace QueryWatch

open Text (Bytes)
open Text.Utf8 (encodeChars encodeChars_append)
open Json (Plain Form Slot EndsNumber ScanAs)

/-- A field that is left out when it is absent leaves the draft as it is, and fills it if it is
present. -/
theorem Json.Form.Fills.present {σ α β : Type} {f : Form σ} {draft filled : σ} {name : String}
    {fields : Json.Fields} {get : σ → Option α} {put : σ → α → σ} {scan : ScanAs α}
    {omissible : Bool} {j : Option Json} (x : Option β) (toJson : β → Json) {value : β → α}
    (next : σ) (hj : j = x.map toJson)
    (hslot : f.slots.find? (·.name == name) = some (Slot.of name get put scan omissible))
    (hget : get draft = none)
    (hscan : ∀ b ∈ x, ∀ rest, EndsNumber rest →
      scan (encodeChars (toJson b).text ++ rest) = .ok (value b, rest))
    (hnext : (x.elim draft fun b ↦ put draft (value b)) = next)
    (hfields : f.Fills next fields filled) :
    f.Fills draft (Response.present name j ++ fields) filled := by
  subst hj hnext
  cases x with
  | none => exact hfields
  | some b => exact .of hslot hget (hscan b rfl) hfields

namespace ErrorReport

variable (e : ErrorReport)

theorem plain_toJson {depth : Nat} : Plain (depth + 1) e.toJson := by
  have hordered : ["code", "message"].Pairwise (· < ·) := by decide
  refine .object (List.pairwise_map.mp hordered) ?_
  simp only [List.forall_mem_cons]
  exact ⟨.string e.code, .string e.message, nofun⟩

/-- An error is read from its text. -/
theorem scan_text {fuel depth : Nat} (hfuel : (encodeChars e.toJson.text).length < fuel)
    (rest : Bytes) :
    (Response.errorForm fuel).scan fuel (depth + 1) {} Response.ErrorDraft.finish
      (encodeChars e.toJson.text ++ rest) = .ok (e, rest) := by
  have hlength : ∀ p ∈ [("code", Json.string e.code), ("message", .string e.message)],
      (encodeChars p.2.text).length < fuel := fun p hp ↦
    Nat.lt_trans (Json.length_lt_object hp).2 hfuel
  obtain ⟨hcode, hmessage, -⟩ := by simpa only [List.forall_mem_cons] using hlength
  have hfills : (Response.errorForm fuel).Fills {}
      [("code", .string e.code), ("message", .string e.message)] ⟨some e.code, some e.message⟩ := by
    refine .of rfl rfl (fun rest _ ↦ Json.scanAsString_text hcode "a string" rest) ?_
    refine .of rfl rfl (fun rest _ ↦ Json.scanAsString_text hmessage "a string" rest) ?_
    exact .nil _
  exact Form.scan_text hfills Response.ErrorDraft.finish rfl hfuel rest

end ErrorReport

namespace Response

/-- The bytes of an answer in front of its newline. -/
def body (r : Response) : Bytes := encodeChars (Json.object r.fields).text

/-- The data of an answer can be read back: it is a plain value, but not null. -/
structure Readable (r : Response) : Prop where
  plain : ∀ j ∈ r.data, Plain (Json.maxDepth - 1) j
  ne_null : ∀ j ∈ r.data, j ≠ .null

theorem mem_present {name : String} {j : Option Json} {p : String × Json} :
    p ∈ present name j ↔ ∃ v, j = some v ∧ p = (name, v) := by
  cases j <;> simp [present]

variable {r : Response}

theorem Readable.plain_fields (hr : r.Readable) :
    ∀ p ∈ r.fields, Plain (Json.maxDepth - 1) p.2 := by
  intro p hp
  simp only [fields, List.mem_cons, List.mem_append, mem_present, Option.map_eq_some_iff] at hp
  rcases hp with rfl | (⟨v, ⟨s, -, rfl⟩, rfl⟩ | ⟨v, hv, rfl⟩) | ⟨v, ⟨e, -, rfl⟩, rfl⟩
  · exact .bool r.ok
  · exact .string s
  · exact hr.plain v hv
  · exact e.plain_toJson

theorem newline_not_mem_body (hr : r.Readable) : Framing.newline ∉ r.body := fun hmem ↦
  absurd (Json.le_of_mem_encodeChars_object hr.plain_fields hmem) (by decide)

/-- The fields of an answer fill its draft. -/
theorem Readable.fills (hr : r.Readable) {fuel : Nat} (hfuel : r.body.length < fuel) :
    (form fuel).Fills {} r.fields
      ⟨some r.ok, r.id.map some, r.data.map some, r.error.map some⟩ := by
  have hlength : ∀ p ∈ r.fields, (encodeChars p.2.text).length < fuel := fun p hp ↦
    Nat.lt_trans (Json.length_lt_object hp).2 hfuel
  have hid : ∀ s ∈ r.id, (encodeChars (Json.string s).text).length < fuel := fun s hs ↦
    hlength ("id", .string s) (by simp [fields, mem_present, Option.mem_def.mp hs])
  have hdata : ∀ j ∈ r.data, (encodeChars j.text).length < fuel := fun j hj ↦
    hlength ("data", j) (by simp [fields, mem_present, Option.mem_def.mp hj])
  have herror : ∀ e ∈ r.error, (encodeChars e.toJson.text).length < fuel := fun e he ↦
    hlength ("error", e.toJson) (by simp [fields, mem_present, Option.mem_def.mp he])
  rw [fields, ← List.append_nil (present "error" _), List.append_assoc]
  refine .of rfl rfl (fun rest _ ↦ Json.scanAsBool_text fuel r.ok rest) ?_
  refine .present r.id .string ⟨some r.ok, r.id.map some, none, none⟩ rfl rfl rfl
    (fun s hs rest _ ↦ Json.scanAsOptional_optString (s := some s) (hid s hs) "a string" rest)
    (by cases r.id <;> rfl) ?_
  refine .present r.data (fun j ↦ j) ⟨some r.ok, r.id.map some, r.data.map some, none⟩
    Option.map_id'.symm rfl rfl
    (fun j hj rest hrest ↦ Json.scanAsOptional_text (hr.plain j hj) (hr.ne_null j hj)
      (Json.scanValue_text (hr.plain j hj) (hdata j hj) hrest))
    (by cases r.data <;> rfl) ?_
  refine .present r.error ErrorReport.toJson
    ⟨some r.ok, r.id.map some, r.data.map some, r.error.map some⟩ rfl rfl rfl
    (fun e he rest _ ↦ Json.scanAsOptional_text (show Plain 1 e.toJson from e.plain_toJson) nofun
      (e.scan_text (herror e he) rest))
    (by cases r.error <;> rfl) ?_
  exact .nil _

/-- An answer is read from its bytes. -/
theorem ofBytes_body (hr : r.Readable) : ofBytes r.body = .ok r := by
  have hfuel := Nat.lt_succ_self r.body.length
  have hfinish : Draft.finish ⟨some r.ok, r.id.map some, r.data.map some, r.error.map some⟩ =
      .ok r := by
    obtain ⟨ok, id, data, error⟩ := r
    cases id <;> cases data <;> cases error <;> rfl
  have hscan : (form (r.body.length + 1)).scan (r.body.length + 1) Json.maxDepth {} Draft.finish
      (r.body ++ []) = .ok (r, []) :=
    Form.scan_text (hr.fills hfuel) Draft.finish hfinish hfuel []
  rw [List.append_nil] at hscan
  unfold ofBytes Json.readWhole
  dsimp only
  rw [hscan]
  rfl

end Response

end QueryWatch
