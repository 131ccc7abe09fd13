import ErrorWording.Command.Switch
import ErrorWording.Text.Utf8

set_option autoImplicit false

namespace ErrorWording

inductive Token where
  | terminator
  | long (name : Bytes) (attached : Option Bytes)
  | letters (cluster : Bytes)
  | word (bytes : Bytes)
deriving DecidableEq, Repr

namespace Token

def hyphen : UInt8 := 0x2D

def equals : UInt8 := 0x3D

def ofLong (body : Bytes) : Token :=
  match body.dropWhile (· != equals) with
  | [] => .long body none
  | _ :: value => .long (body.takeWhile (· != equals)) (some value)

def ofArgument (argument : Bytes) : Token :=
  match argument with
  | [] => .word []
  | first :: rest =>
      if first = hyphen then
        match rest with
        | [] => .word argument
        | second :: body =>
            if second = hyphen then
              if body = [] then .terminator else ofLong body
            else .letters rest
      else .word argument

def leadingText (cluster : Bytes) : String :=
  match (Utf8.units cluster).head? with
  | some (some c) => String.ofList [c]
  | _ => Utf8.lossy cluster

end Token

end ErrorWording
