import ProxyControl.Logging.Format
import ProxyControl.Proofs.Json.Expressed

namespace ProxyControl

theorem Json.Expressible.setMember {key : Text} {value : Json} {members : List (Text × Json)}
    (expressible : Expressible (.object members)) (unsplit : Unsplit key) (told : Expressible value) :
    Expressible (.object (Json.setMember key value members)) := by
  cases expressible with
  | object keys each distinct =>
    refine .object (fun entry member => ?_) (fun entry member => ?_) (nodup_setMember distinct)
    · rcases mem_setMember member with rfl | old
      · exact unsplit
      · exact keys entry old
    · rcases mem_setMember member with rfl | old
      · exact told
      · exact each entry old

theorem Json.Shallow.setMember {depth : Nat} {key : Text} {value : Json} {members : List (Text × Json)}
    (shallow : Shallow (depth + 1) (.object members)) (low : Shallow depth value) :
    Shallow (depth + 1) (.object (Json.setMember key value members)) := by
  cases shallow with
  | object each =>
    refine .object fun entry member => ?_
    rcases mem_setMember member with rfl | old
    · exact low
    · exact each entry old

namespace Record

variable {record : Record}

/-- The fields of a record are the members of an object that a line of ASCII can tell. -/
def Sayable (record : Record) : Prop := Json.Expressible (.object record.fields)

/-- What the line of a record is read as: an object with the text, the weight and the logger of the record. Two
surrogates that make up a character are read as that character. -/
structure Tells (record : Record) (line : Text) (members : List (Text × Json)) : Prop where
  printable : Terminal.Printable line
  written : Json.Written (.object members) line
  parsed : Json.Shallow Json.nestingLimit (.object record.fields) → Json.parse line = .ok (.object members)
  event : (Json.object members).member? "event" = some (.text (Json.joined record.event))
  level : (Json.object members).member? "level" = some (.text record.severity.name)
  logger : (Json.object members).member? "logger" = some (.text (Json.joined record.logger))

theorem members_eq (record : Record) (stamp : Text) : record.members stamp =
    Json.setMember "timestamp" (.text stamp) (Json.setMember "logger" (.text record.logger)
      (Json.setMember "level" (.text record.severity.name)
        (Json.setMember "event" (.text record.event) record.fields))) := rfl

theorem Sayable.expressible (sayable : record.Sayable) (stamp : Text) :
    Json.Expressible (.object (record.members stamp)) := by
  have plain (name : String) (unicode : Text.IsUnicode name) : Json.Unsplit name := Json.unsplit_of_isUnicode unicode
  have event := Json.Expressible.setMember sayable (plain "event" (by decide)) (.text record.event)
  have level := event.setMember (plain "level" (by decide)) (.text record.severity.name)
  have logger := level.setMember (plain "logger" (by decide)) (.text record.logger)
  exact logger.setMember (plain "timestamp" (by decide)) (.text stamp)

theorem shallow_members {depth : Nat} (shallow : Json.Shallow (depth + 1) (.object record.fields)) (stamp : Text) :
    Json.Shallow (depth + 1) (.object (record.members stamp)) :=
  (((shallow.setMember (.text _)).setMember (.text _)).setMember (.text _)).setMember (.text _)

/-- What the line of a record has for a name that is its own, whatever its fields are. -/
theorem lookup_members (record : Record) (stamp : Text) :
    (Json.object (record.members stamp)).member? "event" = some (.text record.event) ∧
      (Json.object (record.members stamp)).member? "level" = some (.text record.severity.name) ∧
      (Json.object (record.members stamp)).member? "logger" = some (.text record.logger) := by
  rw [members_eq]
  simp only [Json.member?]
  refine ⟨?_, ?_, ?_⟩
  · rw [Json.lookup_setMember_of_ne (by decide), Json.lookup_setMember_of_ne (by decide),
      Json.lookup_setMember_of_ne (by decide), Json.lookup_setMember_self]
  · rw [Json.lookup_setMember_of_ne (by decide), Json.lookup_setMember_of_ne (by decide), Json.lookup_setMember_self]
  · rw [Json.lookup_setMember_of_ne (by decide), Json.lookup_setMember_self]

/-- The line of a record tells about it. -/
theorem Sayable.tells (sayable : record.Sayable) (stamp : Text) :
    ∃ members, record.Tells (record.jsonLine stamp) members := by
  have expressible := sayable.expressible stamp
  obtain ⟨event, level, logger⟩ := record.lookup_members stamp
  have whole := expressible.printable_render
  cases expressible with
  | object keys each distinct =>
    obtain ⟨read, told, texts⟩ := Json.told_object keys each distinct
    have plain : Json.Unsplit record.severity.name := by
      cases record.severity <;> exact Json.unsplit_of_isUnicode (by decide)
    refine ⟨read, whole, told.written, fun shallow => ?_, texts _ _ event, ?_, texts _ _ logger⟩
    · have parsed := Json.parse_of_written told.written (told.shallow _ (shallow_members shallow stamp)) Json.blank_nil
      rwa [List.append_nil] at parsed
    · rw [texts _ _ level, Json.joined_of_unsplit plain]

end Record

end ProxyControl
