import RegisterMap.Cli.Arguments
import RegisterMap.Cli.Operation
import RegisterMap.Config
import RegisterMap.Definition.Elaboration
import RegisterMap.Generated.Build
import RegisterMap.Log
import RegisterMap.Packet
import RegisterMap.Snapshot.Store

/-! # Errors of commands -/

namespace RegisterMap.Cli

/-- Why a command failed. -/
inductive CommandError where
  | usage (error : UsageError)
  | config (error : ConfigError)
  | wrongLevel (text : String)
  | file (error : Files.FileError)
  /-- The definition file defines no device. -/
  | definition (name : String) (error : Definition.LoadError)
  | unknownRegister (device register : String)
  | wrongOperation (text : String)
  | wrongAssignment (text : String)
  | hex (error : HexText.HexError)
  | group (error : GroupError)
  | layer (error : LayerError)
  | generate (error : Generated.GenerateError)
  | payloadSize (register : String) (want got : Nat)
  | database (error : Files.DatabaseError)
  | store (error : Snapshot.StoreError)
  deriving Repr

def CommandError.message : CommandError → String
  | usage e => e.message
  | config e => e.message
  | wrongLevel text => LogLevel.unknown text
  | file e => e.message
  | definition name e => e.message name
  | unknownRegister device register => s!"device {device} has no register {register}"
  | wrongOperation text => Cli.wrongOperation text
  | wrongAssignment text => s!"wrong field assignment {Text.quoted text}, must be name=value"
  | hex e => e.message
  | group e => e.message
  | layer e => e.message
  | generate e => e.message
  | payloadSize register want got =>
    s!"register {register} takes {Numeral.decimal want} bytes, got {Numeral.decimal got}"
  | database e => e.message
  | store e => e.message

end RegisterMap.Cli
