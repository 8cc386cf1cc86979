import CoServer.Base.Common

/-! # `CoConfigParser::read_allblock`: the tokenizer of the configuration

A text is read line by line, and a line character by character.  A word is what
lies between the pointers `begin` and `end`; `fin` points to the terminator of
the line, and `nest` counts open braces.  Errors carry what is logged. -/

namespace CoServer

/-! ## Characters -/

namespace ConfigChar

def chNewline : UInt8 := 10
def chTab : UInt8 := 9
def chSpace : UInt8 := 32
def chSharp : UInt8 := 35
def chSemicolon : UInt8 := 59
def chOpen : UInt8 := 123
def chClose : UInt8 := 125

end ConfigChar

open ConfigChar

/-- The lines that `getline` reads; nothing follows a newline that ends the text. -/
def getlines : Bytes → List Bytes
  | [] => []
  | byte :: rest =>
    if byte = chNewline then [] :: getlines rest
    else
      match getlines rest with
      | [] => [[byte]]
      | line :: lines => (byte :: line) :: lines

/-! ## What is read -/

structure CoLineArgs where
  args : List Bytes
  lineno : Int
deriving DecidableEq

structure CoBlockArgs where
  blockName : Bytes
  lineno : Int
  multiLineArgs : List CoLineArgs
deriving DecidableEq

/-- Why `read_allblock` returns `CO_ERROR`: the line, and the position in it. -/
inductive ConfigError where
  /-- "character '%c' unexpected after '%c'" -/
  | unexpectedAfter (ch fin : UInt8) (lineno : Int) (i : Nat)
  /-- "character '%c' unexpected", a closing brace below the outermost level -/
  | unexpectedClose (lineno : Int) (i : Nat)
  /-- "unexpected end, maybe miss character ';'" -/
  | unexpectedEnd (lineno : Int) (i : Nat)
  /-- "character ';' unexpected" -/
  | unexpectedSemicolon (lineno : Int) (i : Nat)
  /-- "character '%c' unexpected", an open brace at the end of the text -/
  | unclosed (lineno : Int)
deriving DecidableEq

/-! ## A line -/

/-- The variables of the loop over a line; a pointer is an offset into the line, which may be
    one before its beginning, and `fin` is the character it points to. -/
structure LineScan where
  nest : Int
  beginPos : Option Nat := none
  endPos : Option Int := none
  fin : Option UInt8 := none
  find : Bool
  args : List Bytes := []

namespace LineScan

/-- The `switch` over the character at offset `i`. -/
def switchChar (lineno : Int) (i : Nat) (ch : UInt8) (self : LineScan) :
    Except ConfigError LineScan :=
  if ch = chSharp then .ok self
  else if ch = chSpace ∨ ch = chTab then .ok { self with endPos := some (i - 1) }
  else if ch = chSemicolon then .ok { self with endPos := some (i - 1), fin := some ch }
  else if ch = chOpen then
    .ok { self with nest := int32 (self.nest + 1), endPos := some (i - 1), fin := some ch }
  else if ch = chClose then
    .ok { self with nest := int32 (self.nest - 1), endPos := some (i - 1), fin := some ch }
  else
    match self.fin with
    | some fin => .error (.unexpectedAfter ch fin lineno i)
    | none =>
      if self.beginPos.isNone then .ok { self with beginPos := some i, endPos := none }
      else .ok self

/-- A word that has an end is stored. -/
def collectArg (line : Bytes) (self : LineScan) : LineScan :=
  match self.beginPos, self.endPos with
  | some beginPos, some endPos =>
    { self with
      find := true
      args := self.args ++ [(line.drop beginPos).take (endPos - beginPos + 1).toNat]
      beginPos := none }
  | _, _ => self

/-- The loop over a line from offset `i` on. -/
def scanLine (line : Bytes) (lineno : Int) : Bytes → Nat → LineScan → Except ConfigError LineScan
  | [], _, self => .ok self
  | ch :: rest, i, self =>
    match switchChar lineno i ch self with
    | .error error => .error error
    | .ok self =>
      if self.nest < 0 then .error (.unexpectedClose lineno i)
      else
        let self := self.collectArg line
        -- a comment takes the rest of the line
        if ch = chSharp then .ok self else scanLine line lineno rest (i + 1) self

/-- The checks behind the loop. -/
def checkLine (lineno : Int) (i : Nat) (self : LineScan) : Option ConfigError :=
  match self.fin with
  | none => if self.beginPos.isSome then some (.unexpectedEnd lineno i) else none
  | some fin =>
    if self.args = [] ∧ fin ≠ chClose then some (.unexpectedSemicolon lineno i) else none

end LineScan

/-! ## The text -/

/-- The variables of the two outer loops. -/
structure BlockScan where
  nest : Int := 0
  currLineno : Int := 0
  find : Bool := false
  multiLineArgs : List CoLineArgs := []
  multiBlocks : List CoBlockArgs := []

namespace BlockScan

/-- The block is stored, unless a first word is missing that the source reads unchecked. -/
def storeBlock (self : BlockScan) : Option (List CoBlockArgs) :=
  if self.find then
    match self.multiLineArgs with
    | ⟨name :: args, lineno⟩ :: lines =>
      some (self.multiBlocks ++ [⟨name, lineno, ⟨name :: args, lineno⟩ :: lines⟩])
    | _ => none
  else some self.multiBlocks

/-- The state behind one line. -/
def readLine (self : BlockScan) (line : Bytes) : Except ConfigError BlockScan :=
  let lineno := int32 (self.currLineno + 1)
  match LineScan.scanLine line lineno line 0 { nest := self.nest, find := self.find } with
  | .error error => .error error
  | .ok scan =>
    match scan.checkLine lineno line.length with
    | some error => .error error
    | none =>
      .ok { self with
        nest := scan.nest
        currLineno := lineno
        find := scan.find
        multiLineArgs := if scan.args = [] then self.multiLineArgs
          else self.multiLineArgs ++ [⟨scan.args, lineno⟩] }

/-- The loops over blocks and their lines. -/
def readBlocks : List Bytes → BlockScan → Option (Except ConfigError (List CoBlockArgs))
  | [], self =>
    if self.nest > 0 then some (.error (.unclosed self.currLineno))
    else self.storeBlock.map .ok
  | line :: rest, self =>
    match self.readLine line with
    | .error error => some (.error error)
    | .ok self =>
      if self.nest = 0 ∧ self.find then
        match self.storeBlock with
        | none => none
        | some multiBlocks =>
          readBlocks rest { self with find := false, multiLineArgs := [], multiBlocks }
      else readBlocks rest self

end BlockScan

/-- `read_allblock`; `none` is a read outside of a vector. -/
def readAllblock (content : Bytes) : Option (Except ConfigError (List CoBlockArgs)) :=
  BlockScan.readBlocks (getlines content) {}

end CoServer
