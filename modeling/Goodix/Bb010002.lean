import Goodix.Primitives

/-! # The BB010002 envelope

`goodix_bb010002.c`: the 332 octets the sensor stores under type BB010002 are a
324-octet DPAPI blob of fixed structure and eight octets nothing is known about.
-/

namespace Goodix.Bb010002

open Octets

def length : Nat := 332
def dpapiBlobLength : Nat := 324

def bb010002Error (code : Nat) (message : String) : GError :=
  ⟨"goodix-bb010002-error", code, message⟩

def errorLength : Nat := 1
def errorStructure : Nat := 2

def dpapiProviderGuid : List UInt8 :=
  [0xd0, 0x8c, 0x9d, 0xdf, 0x01, 0x15, 0xd1, 0x11,
    0x8c, 0x7a, 0x00, 0xc0, 0x4f, 0xc2, 0x97, 0xeb]

/-- `This is the description string.` in UTF-16, with its terminator. -/
def expectedDescription : List UInt8 :=
  [84, 0, 104, 0, 105, 0, 115, 0, 32, 0, 105, 0, 115, 0, 32, 0,
    116, 0, 104, 0, 101, 0, 32, 0, 100, 0, 101, 0, 115, 0, 99, 0,
    114, 0, 105, 0, 112, 0, 116, 0, 105, 0, 111, 0, 110, 0, 32, 0,
    115, 0, 116, 0, 114, 0, 105, 0, 110, 0, 103, 0, 46, 0, 0, 0]

/-- One check of the blob at the cursor. -/
inductive Field where
  | u32 (expected : UInt32)
  | bytes (expected : List UInt8)
  | skip (length : Nat)
  | skipNonzero (length : Nat)

/-- The cursor after a field that is as expected. -/
def Field.accept (data : List UInt8) (cursor : Nat) : Field → Option Nat
  | u32 expected =>
    if cursor > dpapiBlobLength - 4 || getU32Le ((data.drop cursor).take 4) ≠ expected then none
    else some (cursor + 4)
  | bytes expected =>
    if cursor > dpapiBlobLength || expected.length > dpapiBlobLength - cursor ||
        (data.drop cursor).take expected.length ≠ expected then none
    else some (cursor + expected.length)
  | skip length =>
    if cursor > dpapiBlobLength || length > dpapiBlobLength - cursor then none
    else some (cursor + length)
  | skipNonzero length =>
    if cursor > dpapiBlobLength - length ||
        ((data.drop cursor).take length).all (· = 0) then none
    else some (cursor + length)

def fields : List Field :=
  [.u32 1, .bytes dpapiProviderGuid, .u32 1, .skipNonzero 16, .u32 4, .u32 64,
    .bytes expectedDescription, .u32 0x6610, .u32 256, .u32 32, .skip 32, .u32 0, .u32 0x800e,
    .u32 512, .u32 32, .skip 32, .u32 48, .skip 48, .u32 64, .skip 64]

/-- `goodix_bb010002_validate` -/
def validate (data : List UInt8) : Except GError Unit :=
  if data.length ≠ length then
    .error (bb010002Error errorLength "BB010002 must be exactly 332 bytes")
  else if fields.foldlM (fun cursor field => field.accept data cursor) 0 = some dpapiBlobLength then
    .ok ()
  else .error (bb010002Error errorStructure "BB010002 DPAPI envelope structure mismatch")

end Goodix.Bb010002
