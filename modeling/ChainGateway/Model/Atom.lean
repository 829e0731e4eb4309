import ChainGateway.Json.Record
import ChainGateway.Time.Timestamp

/-!
# Field types of the read models

Amounts are decimal texts, so that no precision is lost between the store and the
wire. Integers have the width of the store's columns.
-/

namespace ChainGateway.Json.Codec

def byte : Codec UInt8 := (natural 255).through UInt8.toNat UInt8.ofNat

def word16 : Codec UInt16 := (natural 65535).through UInt16.toNat UInt16.ofNat

def word32 : Codec UInt32 := (natural 4294967295).through UInt32.toNat UInt32.ofNat

def word64 : Codec UInt64 := (natural 18446744073709551615).through UInt64.toNat UInt64.ofNat

def single : Codec Binary.Single := floating Binary.single

def double : Codec Binary.Double := floating Binary.double

end ChainGateway.Json.Codec

namespace ChainGateway.Model

open Json

/-- The hexadecimal bytes of a signed transaction. -/
structure RawTransaction where
  hex : String
  deriving DecidableEq, Inhabited, Repr

/-- A raw transaction is written as its text alone. -/
def RawTransaction.codec : Codec RawTransaction :=
  Codec.text.through RawTransaction.hex RawTransaction.mk

end ChainGateway.Model
