import Mathlib.Data.List.TakeWhile
import TripleStore.Load.File
import TripleStore.Proofs.Json.Writing
import TripleStore.Proofs.Text.Lines
import TripleStore.Proofs.Text.Utf8

/-!
Contract: records that are written as JSON, in one document and line by line.

Owns:
- `WritesRecord`, by which an object has the fields of a record in some order;
- documents that list objects, and files with one object to a line;
- `JsonLibrary`, all that is asked of a reader of JSON, and that the reader of this library
  is one;
- that both kinds of files give back the records their objects are written for, and the same
  store.

Does not own: how a text is written in quotes (`TripleStore.Proofs.Json.Writing`).
-/

namespace TripleStore.Load

open TripleStore.Json (Reader WritesText WritesMember OpensValue separated exists_forall₂
  exists_writesText forall_mem_of_forall₂ forall_mem_separated noControl_of_writesText quoted
  takes_of_writesText writesText_quoted)
open TripleStore.Text (encode encode_append decode_encode decode?_encode mem_encode_iff)

/-! ## Records as they are written -/

def fieldsOf (record : Record) : List (String × String) :=
  [("subject", record.subject), ("prop", record.predicate), ("object", record.object)]

/-- A name and a text, both in quotes, with a colon between them. -/
def WritesField (written : List Char) (field : String × String) : Prop :=
  ∃ name text, WritesText name field.1 ∧ WritesText text field.2 ∧ written = name ++ ':' :: text

/-- The fields, in this order, are the members of an object. -/
def WritesFields (written : List Char) (fields : List (String × String)) : Prop :=
  ∃ parts, List.Forall₂ WritesField parts fields ∧
    written = '\x7b' :: (separated true parts ++ ['\x7d'])

/-- The fields may come in any order. -/
def WritesRecord (written : List Char) (record : Record) : Prop :=
  ∃ fields, fields.Perm (fieldsOf record) ∧ WritesFields written fields

/-- The objects in a list, which is the only member of an object. -/
def document (objects : List (List Char)) : List Char :=
  '\x7b' :: (quoted "triples" ++ ':' :: '[' :: (separated true objects ++ [']', '\x7d']))

/-- There is one object to a line, and the last line need not be ended. -/
inductive HoldsLines : List (List Char) → List Char → Prop where
  | nil : HoldsLines [] []
  | last
      (object : List Char) :
      HoldsLines [object] object
  | line
      (object lineEnd : List Char)
      (objects : List (List Char))
      (rest : List Char)
      (isEnd : lineEnd = ['\n'] ∨ lineEnd = ['\r', '\n'])
      (behind : HoldsLines objects rest) :
      HoldsLines (object :: objects) (object ++ (lineEnd ++ rest))

variable {record : Record} {records : List Record} {written : List Char}
  {objects : List (List Char)}

/-! ## What is asked of a reader of JSON -/

/-- A reader of the records in JSON texts, by its two ways of being called. All that is assumed
of it is that it gives back the records that are written. -/
structure JsonLibrary where
  recordOn : LineReader
  recordsIn : List UInt8 → Except Json.Fault (List Record)
  recordOn_written :
    ∀ {written record}, WritesRecord written record → recordOn written = .ok record
  recordsIn_written :
    ∀ {objects records}, List.Forall₂ WritesRecord objects records →
      recordsIn (encode (document objects)) = .ok records

/-! ## Documents -/

theorem takes_record (writes : WritesRecord written record) :
    recordReader.Takes written record := by
  obtain ⟨fields, order, parts, writesFields, rfl⟩ := writes
  have members : List.Forall₂ (WritesMember .text) parts fields := by
    refine writesFields.imp ?_
    rintro part field ⟨name, text, writesName, writesText, rfl⟩
    exact ⟨name, text, writesName, takes_of_writesText writesText, rfl⟩
  have distinct : ((fieldsOf record).map Prod.fst).Nodup := by
    change ["subject", "prop", "object"].Nodup
    decide
  exact (Reader.takes_fields distinct order members).refine rfl

theorem opensValue_record (writes : WritesRecord written record) : OpensValue written := by
  obtain ⟨fields, order, parts, writesFields, rfl⟩ := writes
  exact ⟨_, _, rfl, by decide, by decide⟩

theorem takes_document (writes : List.Forall₂ WritesRecord objects records) :
    documentReader.Takes (document objects) records := by
  have opens : ∀ object ∈ objects, OpensValue object := by
    refine forall_mem_of_forall₂ ?_ writes
    intro object record writesRecord
    exact opensValue_record writesRecord
  have elements : (Reader.list recordReader).Takes ('[' :: (separated true objects ++ [']']))
      records :=
    Reader.takes_list (writes.imp fun _ _ => takes_record) opens
  have name : WritesText (quoted "triples") "triples" := writesText_quoted (by decide)
  have member : WritesMember (.list recordReader)
      (quoted "triples" ++ ':' :: ('[' :: (separated true objects ++ [']'])))
      ("triples", records) :=
    ⟨_, _, name, elements, rfl⟩
  have distinct : ([("triples", records)].map Prod.fst).Nodup := List.nodup_singleton _
  have fields := Reader.takes_fields distinct (.refl _) (.cons member .nil)
  have means : recordsOf? ([("triples", records)].map Prod.snd) = some records := rfl
  have whole := fields.refine means
  simp only [separated, List.append_nil, List.append_assoc, List.cons_append,
    List.nil_append] at whole
  exact whole

/-- The reader that the formats use. -/
def jsonLibrary : JsonLibrary where
  recordOn := jsonRecord
  recordsIn := jsonDocument
  recordOn_written := fun writes => (takes_record writes).whole
  recordsIn_written := by
    intro objects records writes
    rw [jsonDocument, decode_encode, (takes_document writes).whole]

/-! ## Lines -/

/-- A record is on one line, whatever its texts hold. -/
theorem isPlain_record (writes : WritesRecord written record) :
    Text.IsPlain (encode written) := by
  obtain ⟨fields, order, parts, writesFields, rfl⟩ := writes
  have inParts : ∀ part ∈ parts, ∀ unit ∈ part, 0x20 ≤ unit.toNat := by
    refine forall_mem_of_forall₂ ?_ writesFields
    rintro part field ⟨name, text, writesName, writesText, rfl⟩
    have ofName := noControl_of_writesText writesName
    have ofText := noControl_of_writesText writesText
    exact List.forall_mem_append.mpr ⟨ofName, List.forall_mem_cons.mpr ⟨by decide, ofText⟩⟩
  have inside := forall_mem_separated (by decide : 0x20 ≤ ','.toNat) inParts true
  have visible : ∀ unit ∈ '{' :: (separated true parts ++ ['}']), 0x20 ≤ unit.toNat := by
    refine List.forall_mem_cons.mpr ⟨by decide, List.forall_mem_append.mpr ⟨inside, ?_⟩⟩
    simp
  have absent : ∀ byte : UInt8, byte.toNat < 0x20 →
      byte ∉ encode ('{' :: (separated true parts ++ ['}'])) := by
    intro byte isControl member
    obtain ⟨unit, isUnit, same⟩ := (mem_encode_iff (by omega)).mp member
    have above := visible unit isUnit
    omega
  intro byte member
  refine ⟨?_, ?_⟩
  · rintro rfl
    exact absent _ (by decide) member
  · rintro rfl
    exact absent _ (by decide) member

theorem trimChars_ne_nil
    {first : Char}
    (visible : Text.isBlank first = false)
    (others : List Char) :
    Text.trimChars (first :: others) ≠ [] := by
  have starts : (first :: others).dropWhile Text.isBlank = first :: others :=
    List.dropWhile_cons_of_neg (by simp [visible])
  intro nothing
  rw [Text.trimChars, starts, List.reverse_eq_nil_iff, List.dropWhile_eq_nil_iff] at nothing
  have blank := nothing first (by simp)
  rw [visible] at blank
  cases blank

theorem readLine_record
    (library : JsonLibrary)
    (writes : WritesRecord written record)
    (number : Nat) :
    readLine library.recordOn number (encode written) = .ok (some record) := by
  have read := library.recordOn_written writes
  have notBlank : Text.trimChars written ≠ [] := by
    obtain ⟨_, _, _, _, rfl⟩ := writes
    exact trimChars_ne_nil (by decide) _
  rw [readLine, decode?_encode]
  simp only [if_neg notBlank, read]
  rfl

theorem encode_lineEnd
    {lineEnd : List Char}
    (isEnd : lineEnd = ['\n'] ∨ lineEnd = ['\r', '\n']) :
    encode lineEnd ∈ Text.lineEnds := by
  rcases isEnd with rfl | rfl <;> decide

theorem readLinesFrom_holdsLines
    {text : List Char}
    (library : JsonLibrary)
    (holds : HoldsLines objects text)
    (writes : List.Forall₂ WritesRecord objects records)
    (number : Nat) :
    readLinesFrom library.recordOn number (Text.lines (encode text)) = .ok records := by
  induction holds generalizing records number with
  | nil =>
      cases writes
      rfl
  | last object =>
      obtain ⟨record, _, writesRecord, nothing, rfl⟩ := List.forall₂_cons_left_iff.mp writes
      cases nothing
      have notEmpty : encode object ≠ [] := by
        obtain ⟨_, _, _, _, rfl⟩ := writesRecord
        simp [String.utf8EncodeChar_ne_nil]
      rw [Text.lines_of_isPlain (isPlain_record writesRecord) notEmpty, readLinesFrom,
        readLine_record library writesRecord]
      rfl
  | line object lineEnd objects rest isEnd behind inductionHypothesis =>
      obtain ⟨record, others, writesRecord, writesOthers, rfl⟩ :=
        List.forall₂_cons_left_iff.mp writes
      have later := inductionHypothesis writesOthers (number + 1)
      rw [encode_append, encode_append,
        Text.lines_cons_of_isPlain (isPlain_record writesRecord) (encode_lineEnd isEnd),
        readLinesFrom, readLine_record library writesRecord]
      simp only [later, bind, Except.bind]
      rfl

theorem readLines_holdsLines
    {text : List Char}
    (library : JsonLibrary)
    (holds : HoldsLines objects text)
    (writes : List.Forall₂ WritesRecord objects records) :
    readLines library.recordOn (encode text) = .ok records :=
  readLinesFrom_holdsLines library holds writes 1

/-! ## Both formats -/

theorem exists_writesFields (fields : List (String × String)) :
    ∃ written, WritesFields written fields := by
  have exists_part : ∀ field, ∃ part, WritesField part field := by
    intro field
    obtain ⟨name, writesName⟩ := exists_writesText field.1
    obtain ⟨text, writesText⟩ := exists_writesText field.2
    exact ⟨_, name, text, writesName, writesText, rfl⟩
  obtain ⟨parts, writes⟩ := exists_forall₂ exists_part fields
  exact ⟨_, parts, writes, rfl⟩

theorem loadStore_of_readRecords
    (format : Format)
    {bytes : List UInt8}
    (read : readRecords format bytes = .ok records)
    (path : String) :
    loadStore path (some format) (.file bytes) = .ok (.ofRecords records) := by
  have given : formatFor path (some format) = .ok format := rfl
  simp only [loadStore, given, Source.records, read, bind, Except.bind]
  rfl

/-- A record can be written with its fields in any order. Both a document of such objects and
a file with one to a line are read as just the records, and give the same store. -/
theorem json_agrees_with_jsonLines :
    (∀ record fields, fields.Perm (fieldsOf record) →
        ∃ written, WritesFields written fields ∧ WritesRecord written record) ∧
      ∀ records objects lines text path,
        List.Forall₂ WritesRecord objects records → List.Forall₂ WritesRecord lines records →
        HoldsLines lines text →
        readJson (encode (document objects)) = .ok records ∧
          readJsonLines (encode text) = .ok records ∧
          loadStore path (some .json) (.file (encode (document objects))) =
            .ok (.ofRecords records) ∧
          loadStore path (some .jsonLines) (.file (encode text)) = .ok (.ofRecords records) := by
  constructor
  · intro record fields order
    obtain ⟨written, writes⟩ := exists_writesFields fields
    exact ⟨written, writes, fields, order, writes⟩
  · intro records objects lines text path writesObjects writesLines holds
    have ofDocument : readJson (encode (document objects)) = .ok records :=
      congrArg (Except.mapError LoadError.json) (jsonLibrary.recordsIn_written writesObjects)
    have ofLines : readJsonLines (encode text) = .ok records :=
      readLines_holdsLines jsonLibrary holds writesLines
    exact ⟨ofDocument, ofLines, loadStore_of_readRecords .json ofDocument path,
      loadStore_of_readRecords .jsonLines ofLines path⟩

/-- The object comes first, and the texts hold a line separator, a quote, a backslash and a
control character. -/
def escapedObject : List Char :=
  "\x7b\"object\":\"\u2028\\\"\",\"subject\":\"\\\\\",\"prop\":\"\\u001F\"\x7d".toList

def escapedRecord : Record where
  subject := "\\"
  predicate := "\x1f"
  object := "\u2028\""

/-- The fields in their usual order, and an empty text among them. -/
def plainObject : List Char :=
  "\x7b\"subject\":\"a\",\"prop\":\"p\",\"object\":\"\"\x7d".toList

def plainRecord : Record where
  subject := "a"
  predicate := "p"
  object := ""

theorem writesRecord_escapedObject : WritesRecord escapedObject escapedRecord := by
  have subject : WritesText "\"\\\\\"".toList "\\" :=
    ⟨[['\\', '\\']], .cons (.letter _ _ (by decide)) .nil, rfl⟩
  have predicate : WritesText "\"\\u001F\"".toList "\x1f" := by
    have digits : List.Forall₂ Json.IsHexDigit ['0', '0', '1', 'F'] (Json.hexValues 0x1f) :=
      .cons ⟨by decide, by decide⟩ (.cons ⟨by decide, by decide⟩ (.cons ⟨by decide, by decide⟩
        (.cons ⟨by decide, by decide⟩ .nil)))
    exact ⟨[['\\', 'u', '0', '0', '1', 'F']], .cons (.number '\x1f' _ digits) .nil, rfl⟩
  have object : WritesText "\"\u2028\\\"\"".toList "\u2028\"" :=
    ⟨[['\u2028'], ['\\', '"']], .cons (.raw _ (by decide) (by decide) (by decide))
      (.cons (.letter _ _ (by decide)) .nil), rfl⟩
  have fields : List.Forall₂ WritesField
      [quoted "object" ++ ':' :: "\"\u2028\\\"\"".toList,
        quoted "subject" ++ ':' :: "\"\\\\\"".toList,
        quoted "prop" ++ ':' :: "\"\\u001F\"".toList]
      [("object", "\u2028\""), ("subject", "\\"), ("prop", "\x1f")] :=
    .cons ⟨_, _, writesText_quoted (by decide), object, rfl⟩
      (.cons ⟨_, _, writesText_quoted (by decide), subject, rfl⟩
        (.cons ⟨_, _, writesText_quoted (by decide), predicate, rfl⟩ .nil))
  exact ⟨_, by decide, _, fields, by decide⟩

theorem writesRecord_plainObject : WritesRecord plainObject plainRecord := by
  have fields : List.Forall₂ WritesField
      [quoted "subject" ++ ':' :: quoted "a", quoted "prop" ++ ':' :: quoted "p",
        quoted "object" ++ ':' :: quoted ""]
      [("subject", "a"), ("prop", "p"), ("object", "")] :=
    .cons ⟨_, _, writesText_quoted (by decide), writesText_quoted (by decide), rfl⟩
      (.cons ⟨_, _, writesText_quoted (by decide), writesText_quoted (by decide), rfl⟩
        (.cons ⟨_, _, writesText_quoted (by decide), writesText_quoted (by decide), rfl⟩ .nil))
  exact ⟨_, by decide, _, fields, by decide⟩

theorem json_agrees_with_jsonLines_escaped :
    List.Forall₂ WritesRecord [escapedObject, plainObject] [escapedRecord, plainRecord] ∧
      readJson (encode (document [escapedObject, plainObject])) =
        .ok [escapedRecord, plainRecord] ∧
      readJsonLines (encode (escapedObject ++ (['\r', '\n'] ++ plainObject))) =
        .ok [escapedRecord, plainRecord] ∧
      loadStore "d" (some .json) (.file (encode (document [escapedObject, plainObject]))) =
        loadStore "d" (some .jsonLines)
          (.file (encode (escapedObject ++ (['\r', '\n'] ++ plainObject)))) := by
  have writes : List.Forall₂ WritesRecord [escapedObject, plainObject]
      [escapedRecord, plainRecord] :=
    .cons writesRecord_escapedObject (.cons writesRecord_plainObject .nil)
  have holds : HoldsLines [escapedObject, plainObject]
      (escapedObject ++ (['\r', '\n'] ++ plainObject)) :=
    .line _ _ _ _ (Or.inr rfl) (.last _)
  obtain ⟨ofDocument, ofLines, documentStore, linesStore⟩ :=
    json_agrees_with_jsonLines.2 _ _ _ _ "d" writes writes holds
  exact ⟨writes, ofDocument, ofLines, documentStore.trans linesStore.symm⟩

end TripleStore.Load
