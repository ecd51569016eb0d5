import GuestMachine.Error
import GuestMachine.Memory.Page

/-! # Modules

An executable as its format's reader leaves it: three segments relative to the
load base, followed by zero-filled bytes, and an entry point in the text. The
layout is checked before anything touches guest memory.
-/

namespace GuestMachine

open Layout

inductive SegmentKind where
  | text
  | rodata
  | data
  deriving Repr, DecidableEq

namespace SegmentKind

def name : SegmentKind → String
  | text => "Text"
  | rodata => "Rodata"
  | data => "Data"

/-- Permissions once loading is done. -/
def flags : SegmentKind → PageFlags
  | text => PageFlags.rx
  | rodata => PageFlags.r
  | data => PageFlags.rw

end SegmentKind

structure Segment where
  /-- Distance from the load base. -/
  offset : UInt64 := 0
  bytes : List UInt8 := []
  deriving Repr, DecidableEq

namespace Segment

def length (segment : Segment) : UInt64 :=
  UInt64.ofNat segment.bytes.length

def isEmpty (segment : Segment) : Bool :=
  segment.bytes.isEmpty

/-- One past the last byte, unless that takes more than 64 bits. -/
def finish? (segment : Segment) : Option UInt64 :=
  if segment.offset.toNat + segment.length.toNat < 2 ^ 64 then
    some (segment.offset + segment.length)
  else none

/-- One past the last byte, at most the largest number. -/
def finish (segment : Segment) : UInt64 :=
  saturatingAdd segment.offset segment.length

end Segment

structure ModuleImage where
  text : Segment := {}
  rodata : Segment := {}
  data : Segment := {}
  /-- Number of zero bytes right behind the data. -/
  bssSize : UInt64 := 0
  entryOffset : UInt64 := 0
  deriving Repr, DecidableEq

/-- The pages of one segment, as offsets. -/
structure ModuleRegion where
  kind : SegmentKind
  start : UInt64
  finish : UInt64
  deriving Repr, DecidableEq

namespace ModuleImage

/-- A raw code image, entered at its first byte. -/
def flat (image : List UInt8) : ModuleImage :=
  { text := { bytes := image } }

def segments (image : ModuleImage) : List (SegmentKind × Segment) :=
  [(.text, image.text), (.rodata, image.rodata), (.data, image.data)]

/-- One past the last zero byte behind the data. -/
def bssFinish (image : ModuleImage) : UInt64 :=
  saturatingAdd image.data.finish image.bssSize

/-- `size` rounded up to pages, at most the largest number. -/
def roundedUp (size : UInt64) : UInt64 :=
  (pageAlignUp? size).getD (UInt64.ofNat (2 ^ 64 - 1))

def imageSize (image : ModuleImage) : UInt64 :=
  roundedUp (max (max image.text.finish image.rodata.finish) image.bssFinish)

/-- The pages of a part, unless it is empty. -/
def regionOf (kind : SegmentKind) (start finish : UInt64) : Option ModuleRegion :=
  if start < finish then some { kind, start, finish := roundedUp finish } else none

/-- The pages of every part that is not empty. The zero bytes share those of
    the data. -/
def regions (image : ModuleImage) : List ModuleRegion :=
  [regionOf .text image.text.offset image.text.finish,
    regionOf .rodata image.rodata.offset image.rodata.finish,
    regionOf .data image.data.offset image.bssFinish].filterMap id

/-- The first two neighbours of which the second starts too early. -/
def overlap? : List ModuleRegion → Option (SegmentKind × SegmentKind)
  | first :: second :: rest =>
      if second.start < first.finish then some (first.kind, second.kind)
      else overlap? (second :: rest)
  | _ => none

/-- The segment ends, rounded up to pages, within 64 bits. -/
def fits (segment : Segment) : Bool :=
  (segment.finish?.bind pageAlignUp?).isSome

/-- The zero bytes end, rounded up to pages, within 64 bits. -/
def bssFits (image : ModuleImage) : Bool :=
  image.data.finish.toNat + image.bssSize.toNat < 2 ^ 64
    && (pageAlignUp? (image.data.finish + image.bssSize)).isSome

/-- The entry point is an instruction of the text. -/
def entersText (image : ModuleImage) : Bool :=
  image.text.offset ≤ image.entryOffset && image.entryOffset < image.text.finish
    && image.entryOffset % 4 == 0

/-- Why a module cannot be loaded, if it cannot. -/
def defect? (image : ModuleImage) : Option String :=
  if image.text.isEmpty then some "module has no text"
  else if image.segments.any fun (_, segment) => !isPageAligned segment.offset then
    some "segment offsets must be page aligned"
  else
    match image.segments.find? fun (_, segment) => !fits segment with
    | some (kind, _) => some (kind.name ++ " segment overflows the address space")
    | none =>
        if !image.bssFits then some "bss overflows the address space"
        else
          match overlap? image.regions with
          | some (first, second) => some (first.name ++ " overlaps " ++ second.name)
          | none =>
              if image.entersText then none
              else some ("entry offset " ++ Text.hex image.entryOffset.toNat
                ++ " is not an instruction in text")

def validate (image : ModuleImage) : Except LoaderError Unit :=
  match image.defect? with
  | some why => .error (.invalidModule why)
  | none => .ok ()

end ModuleImage

end GuestMachine
