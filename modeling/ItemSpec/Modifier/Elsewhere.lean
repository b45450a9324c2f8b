import ItemSpec.Modifier.Parser
set_option autoImplicit false

/-! Modifier parsers where a host gives them something else than metadata to edit: nothing, or an object
of another sort. A parser goes about it as about blank metadata with the parts that are there. A part
that it puts in place is there from then on, though nothing takes no part; a part that it changes within
has to be there before. -/

namespace ItemSpec.Modifier

private def retold (data? : Option Meta) : Event → Event
  | .given label tokens _ => .given label tokens data?
  | .notice notice => .notice notice

private def shows : Event → Bool
  | .given .. => true
  | .notice _ => false

/-- What came of a parsing where this stands in the place of metadata: to show what cannot be shown is
a fault. -/
private def retrace {Result : Type} (slot : DataSlot) (traced : Traced Result) : Traced Result :=
  match slot.shown with
  | .ok data? => ⟨traced.events.map (retold data?), traced.outcome⟩
  | .error fault => if traced.events.any shows then .fail fault else traced

def Parser.readSlot (parser : Parser) (tokens : List Text) (slot : DataSlot) :
    Reading DataSlot Reply :=
  match slot with
  | .data data =>
    let reading := parser.read tokens data
    ⟨.data reading.data, reading.result⟩
  | .nothing =>
    let reading := parser.read tokens .blank
    let result := retrace slot reading.result
    ⟨slot, if reading.data = .blank then result
      else result >>= fun _ => .lift (slot.lacks parser.part)⟩
  | .other object =>
    let reading := parser.read tokens object.held
    let result := retrace slot reading.result
    if reading.data = object.held then ⟨slot, result⟩
    else if object.canEdit parser.part then
      ⟨.other (object.edit parser.part reading.data), result⟩
    else ⟨slot, result >>= fun _ => .lift (slot.lacks parser.part)⟩

def readAllSlot (parsers : List Parser) (tokens : List Text) (slot : DataSlot) :
    Reading DataSlot (List Test) :=
  inTurn (fun parser edited => parser.settle (parser.readSlot tokens edited)) parsers slot

end ItemSpec.Modifier
