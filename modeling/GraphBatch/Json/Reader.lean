import GraphBatch.Json.Literal

/-!
# Reading JSON text

Text is read into a source. Lists and objects may be nested up to 127 deep; what
is nested deeper counts as malformed when it is decoded, yet it can still be
passed over, as can numbers beyond the greatest one and strings with lone
surrogates.
-/

namespace GraphBatch.Json

def isBlank (char : Char) : Bool :=
  char = ' ' || char = '\n' || char = '\t' || char = '\r'

def skipBlanks (chars : List Char) : List Char :=
  chars.dropWhile isBlank

/-- What is read at a place: the source, and the text after it unless the text
cannot be followed past it. -/
structure Reading (α : Type) where
  found : α
  rest : Option (List Char)

/-- Text that cannot be followed. -/
def Reading.broken (found : α) : Reading α := ⟨found, none⟩

/-- A fixed word such as `null`. -/
def readWord (word : String) (value : Source) (chars : List Char) : Reading Source :=
  if word.toList.isPrefixOf chars then ⟨value, some (chars.drop word.length)⟩
  else .broken .malformed

def readNumber (chars : List Char) : Reading Source :=
  match numeral? chars with
  | some (numeral, rest) => ⟨numeral.source, some rest⟩
  | none => .broken .malformed

/-- A string after its opening quote: its text unless surrogates are unpaired. -/
def readString (chars : List Char) : Reading (Option String) :=
  match pieces? (chars.length + 1) chars with
  | some (pieces, rest) => ⟨(joinPieces? pieces).map String.ofList, some rest⟩
  | none => .broken none

/-- The depth of nesting at which reading stops. -/
def depthLimit : Nat := 128

mutual

/-- A value. The step count bounds the reading, the level is what is left of the
depth limit. -/
def readValue : Nat → Nat → List Char → Reading Source
  | 0, _, _ => .broken .malformed
  | steps + 1, level, chars =>
      match skipBlanks chars with
      | [] => .broken .malformed
      | char :: rest =>
          if char = 'n' then readWord "null" .null (char :: rest)
          else if char = 't' then readWord "true" (.bool true) (char :: rest)
          else if char = 'f' then readWord "false" (.bool false) (char :: rest)
          else if char = '\x22' then
            let string := readString rest
            ⟨(string.found.map Source.str).getD .malformed, string.rest⟩
          else if char = '[' then
            let items := readItems steps (level - 1) true rest
            if level ≤ 1 then ⟨.list [] .cut, items.rest⟩
            else ⟨.list items.found.1 items.found.2, items.rest⟩
          else if char = '\x7b' then
            let members := readMembers steps (level - 1) true rest
            if level ≤ 1 then ⟨.object [] .cut, members.rest⟩
            else ⟨.object members.found.1 members.found.2, members.rest⟩
          else readNumber (char :: rest)

def readItems : Nat → Nat → Bool → List Char → Reading (List Source × Ending)
  | 0, _, _, _ => .broken ([], .cut)
  | steps + 1, level, first, chars =>
      match skipBlanks chars with
      | [] => .broken ([], .cut)
      | char :: rest =>
          if char = ']' then ⟨([], .closed), some rest⟩
          else if first then readItem steps level (char :: rest)
          else if char = ',' then
            match skipBlanks rest with
            | [] => .broken ([], .cut)
            | next :: after =>
                if next = ']' then .broken ([], .cut)
                else readItem steps level (next :: after)
          else .broken ([], .cut)

def readItem : Nat → Nat → List Char → Reading (List Source × Ending)
  | 0, _, _ => .broken ([], .cut)
  | steps + 1, level, chars =>
      let item := readValue steps level chars
      match item.rest with
      | none => .broken ([item.found], .cut)
      | some rest =>
          let items := readItems steps level false rest
          ⟨(item.found :: items.found.1, items.found.2), items.rest⟩

/-- The members of an object after its opening brace or after a member. -/
def readMembers : Nat → Nat → Bool → List Char → Reading (List (String × Source) × Ending)
  | 0, _, _, _ => .broken ([], .cut)
  | steps + 1, level, first, chars =>
      match skipBlanks chars with
      | [] => .broken ([], .cut)
      | char :: rest =>
          if char = '\x7d' then ⟨([], .closed), some rest⟩
          else if first then readMember steps level (char :: rest)
          else if char = ',' then readMember steps level (skipBlanks rest)
          else .broken ([], .cut)

def readMember : Nat → Nat → List Char → Reading (List (String × Source) × Ending)
  | 0, _, _ => .broken ([], .cut)
  | _, _, [] => .broken ([], .cut)
  | steps + 1, level, quote :: chars =>
      if quote ≠ '\x22' then .broken ([], .cut)
      else
        let key := readString chars
        match key.found, key.rest with
        | some name, some rest =>
            match skipBlanks rest with
            | ':' :: rest =>
                let value := readValue steps level rest
                match value.rest with
                | none => .broken ([(name, value.found)], .cut)
                | some rest =>
                    let members := readMembers steps level false rest
                    ⟨((name, value.found) :: members.found.1, members.found.2), members.rest⟩
            | _ => .broken ([(name, .malformed)], .cut)
        | none, some rest =>
            match skipBlanks rest with
            | ':' :: rest =>
                match (readValue steps level rest).rest with
                | none => .broken ([], .cut)
                | some rest => ⟨([], .cut), (readMembers steps level false rest).rest⟩
            | _ => .broken ([], .cut)
        | _, none => .broken ([], .cut)

end

/-- What a whole text holds: the source at its front, and whether only blanks
follow it. -/
structure TextSource where
  source : Source
  ended : Bool

def readText (text : String) : TextSource :=
  let chars := text.toList
  let reading := readValue (4 * chars.length + 4) depthLimit chars
  ⟨reading.found, reading.rest.any fun rest => (skipBlanks rest).isEmpty⟩

def ofText? (text : String) : Option Json :=
  let reading := readText text
  if reading.ended then reading.source.toJson? else none

end GraphBatch.Json
