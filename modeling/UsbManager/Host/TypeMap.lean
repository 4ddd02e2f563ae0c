import Mathlib.Data.List.Pairwise
import Mathlib.Data.List.Perm.Basic
import UsbManager.Lib.StdMap
import UsbManager.Types

/-!
# The type tables

`usb_interface_type.h`: the patterns that a type policy names, one table for whole devices and
one for interfaces. Both are `std::unordered_map`s, so a loop may visit them in any order.
-/

namespace UsbManager.Host

inductive InterfaceType
  | typeInterface | typeStorage | typeAudio | typeHid | typePhysical | typeImage | typePrinter
  | typeCommunication | typeFullSpeedHub | typeFullSpeedHubS | typeFullSpeedHubM | typeCdcData
  | typeSmartCard | typeContentSecurtiy | typeVideo | typePersonalHealthcare | typeAvcontrol
  | typeAvvStreaming | typeAvaStreaming | typeBillboard | typeTypecBridge | typeBdp | typeMctpMana1
  | typeMctpMana2 | typeMctpHost1 | typeMctpHost2 | typeI3c | typeDiagnostic1 | typeDiagnostic2
  | typeDiagnostic3 | typeDiagnostic4 | typeDiagnostic5 | typeDiagnostic6 | typeDiagnostic7
  | typeDiagnostic8 | typeDiagnostic9 | typeDiagnostic10 | typeDiagnostic11 | typeDiagnostic12
  | typeDiagnostic13 | typeDiagnostic14 | typeWirlessController1 | typeWirlessController2
  | typeWirlessController3 | typeWirlessController4 | typeWirlessController5
  | typeWirlessController6 | typeWirlessController7 | typeMiscellaneous1 | typeMiscellaneous2
  | typeMiscellaneous3 | typeMiscellaneous4 | typeMiscellaneous5 | typeMiscellaneous6
  | typeMiscellaneous7 | typeMiscellaneous8 | typeMiscellaneous9 | typeMiscellaneous10
  | typeMiscellaneous11 | typeMiscellaneous12 | typeMiscellaneous13 | typeMiscellaneous14
  | typeMiscellaneous15 | typeMiscellaneous16 | typeMiscellaneous17 | typeMiscellaneous18
  | typeMiscellaneous19 | typeApplicationSpe1 | typeApplicationSpe2 | typeApplicationSpe3
  | typeApplicationSpe4 | typeVendorSpecific
  deriving DecidableEq, Repr

/-- `RANDOM_VALUE_INDICATE`: any value. -/
def randomValueIndicate : Int := -1

/-- A class, a subclass and a protocol, with -1 for any. -/
structure TypePattern where
  baseClass : Int
  subClass : Int
  protocol : Int
  deriving DecidableEq, Repr

/-- The comparison that every user of the tables makes. -/
def TypePattern.covers (p : TypePattern) (baseClass subClass protocol : Int) : Bool :=
  baseClass = p.baseClass &&
    (subClass = p.subClass || p.subClass = randomValueIndicate) &&
    (protocol = p.protocol || p.protocol = randomValueIndicate)

def TypePattern.coversDevice (p : TypePattern) (d : UsbDevice) : Bool :=
  p.covers d.baseClass d.subClass d.protocol

def TypePattern.coversInterface (p : TypePattern) (i : UsbInterface) : Bool :=
  p.covers i.klass i.subClass i.protocol

def TypePattern.coversType (p : TypePattern) (t : UsbDeviceType) : Bool :=
  p.covers t.baseClass t.subClass t.protocol

abbrev TypeTable := List (InterfaceType × TypePattern)

def dTypeMap : TypeTable :=
  [(.typeInterface, ⟨0, 0, 0⟩), (.typeCommunication, ⟨2, -1, -1⟩), (.typeFullSpeedHub, ⟨9, 0, 0⟩),
   (.typeFullSpeedHubS, ⟨9, 0, 1⟩), (.typeFullSpeedHubM, ⟨9, 0, 2⟩), (.typeBillboard, ⟨17, 0, 0⟩),
   (.typeDiagnostic1, ⟨220, 1, 1⟩), (.typeDiagnostic2, ⟨220, 2, 0⟩), (.typeDiagnostic3, ⟨220, 2, 1⟩),
   (.typeDiagnostic4, ⟨220, 3, 0⟩), (.typeDiagnostic5, ⟨220, 3, 1⟩), (.typeDiagnostic6, ⟨220, 4, 0⟩),
   (.typeDiagnostic7, ⟨220, 4, 1⟩), (.typeDiagnostic8, ⟨220, 5, 0⟩), (.typeDiagnostic9, ⟨220, 5, 1⟩),
   (.typeDiagnostic10, ⟨220, 6, 0⟩), (.typeDiagnostic11, ⟨220, 6, 1⟩), (.typeDiagnostic12, ⟨220, 7, 0⟩),
   (.typeDiagnostic13, ⟨220, 7, 1⟩), (.typeDiagnostic14, ⟨220, 8, 0⟩),
   (.typeMiscellaneous1, ⟨239, 1, 1⟩), (.typeMiscellaneous2, ⟨239, 1, 2⟩),
   (.typeMiscellaneous3, ⟨239, 2, 1⟩), (.typeMiscellaneous4, ⟨239, 2, 2⟩),
   (.typeVendorSpecific, ⟨255, -1, -1⟩)]

def gTypeMap : TypeTable :=
  [(.typeAudio, ⟨1, -1, -1⟩), (.typeCommunication, ⟨2, -1, -1⟩), (.typeHid, ⟨3, -1, -1⟩),
   (.typePhysical, ⟨5, -1, -1⟩), (.typeImage, ⟨6, 1, 1⟩), (.typePrinter, ⟨7, -1, -1⟩),
   (.typeStorage, ⟨8, -1, -1⟩), (.typeCdcData, ⟨10, -1, -1⟩), (.typeSmartCard, ⟨11, -1, -1⟩),
   (.typeContentSecurtiy, ⟨13, 0, 0⟩), (.typeVideo, ⟨14, -1, -1⟩),
   (.typePersonalHealthcare, ⟨15, -1, -1⟩), (.typeAvcontrol, ⟨16, 1, 0⟩),
   (.typeAvvStreaming, ⟨16, 2, 0⟩), (.typeAvaStreaming, ⟨16, 3, 0⟩), (.typeTypecBridge, ⟨18, 0, 0⟩),
   (.typeBdp, ⟨19, 0, 0⟩), (.typeMctpMana1, ⟨20, 0, 1⟩), (.typeMctpMana2, ⟨20, 0, 2⟩),
   (.typeMctpHost1, ⟨20, 1, 1⟩), (.typeMctpHost2, ⟨20, 1, 2⟩), (.typeI3c, ⟨60, 0, 0⟩),
   (.typeDiagnostic1, ⟨220, 1, 1⟩), (.typeDiagnostic2, ⟨220, 2, 0⟩), (.typeDiagnostic3, ⟨220, 2, 1⟩),
   (.typeDiagnostic4, ⟨220, 3, 0⟩), (.typeDiagnostic5, ⟨220, 3, 1⟩), (.typeDiagnostic6, ⟨220, 4, 0⟩),
   (.typeDiagnostic7, ⟨220, 4, 1⟩), (.typeDiagnostic8, ⟨220, 5, 0⟩), (.typeDiagnostic9, ⟨220, 5, 1⟩),
   (.typeDiagnostic10, ⟨220, 6, 0⟩), (.typeDiagnostic11, ⟨220, 6, 1⟩), (.typeDiagnostic12, ⟨220, 7, 0⟩),
   (.typeDiagnostic13, ⟨220, 7, 1⟩), (.typeDiagnostic14, ⟨220, 8, 0⟩),
   (.typeWirlessController1, ⟨224, 1, 1⟩), (.typeWirlessController2, ⟨224, 1, 2⟩),
   (.typeWirlessController3, ⟨224, 1, 3⟩), (.typeWirlessController4, ⟨224, 1, 4⟩),
   (.typeWirlessController5, ⟨224, 2, 1⟩), (.typeWirlessController6, ⟨224, 2, 2⟩),
   (.typeWirlessController7, ⟨224, 2, 3⟩), (.typeMiscellaneous1, ⟨239, 1, 1⟩),
   (.typeMiscellaneous2, ⟨239, 1, 2⟩), (.typeMiscellaneous5, ⟨239, 3, 1⟩),
   (.typeMiscellaneous6, ⟨239, 4, 1⟩), (.typeMiscellaneous7, ⟨239, 4, 2⟩),
   (.typeMiscellaneous8, ⟨239, 4, 3⟩), (.typeMiscellaneous9, ⟨239, 4, 4⟩),
   (.typeMiscellaneous10, ⟨239, 4, 5⟩), (.typeMiscellaneous11, ⟨239, 4, 6⟩),
   (.typeMiscellaneous12, ⟨239, 4, 7⟩), (.typeMiscellaneous13, ⟨239, 5, 0⟩),
   (.typeMiscellaneous14, ⟨239, 5, 1⟩), (.typeMiscellaneous15, ⟨239, 5, 2⟩),
   (.typeMiscellaneous16, ⟨239, 6, 1⟩), (.typeMiscellaneous17, ⟨239, 6, 2⟩),
   (.typeMiscellaneous18, ⟨239, 7, 1⟩), (.typeMiscellaneous19, ⟨239, 7, 2⟩),
   (.typeApplicationSpe1, ⟨254, 1, 1⟩), (.typeApplicationSpe2, ⟨254, 2, 0⟩),
   (.typeApplicationSpe3, ⟨254, 3, 0⟩), (.typeApplicationSpe4, ⟨254, 3, 1⟩),
   (.typeVendorSpecific, ⟨255, -1, -1⟩)]

theorem of_find?_entry (table : TypeTable) (q : TypePattern → Bool) (e : InterfaceType × TypePattern)
    (h : table.find? (fun e => q e.2) = some e) : q e.2 :=
  List.find?_some (p := fun e : InterfaceType × TypePattern => q e.2) h

/-- One order in which a loop visits an unordered table. -/
structure VisitOrder (table : TypeTable) where
  entries : TypeTable
  perm : entries.Perm table

/-! ## The patterns of a table are disjoint -/

/-- No device and no interface is covered by both. -/
def TypePattern.apart (p q : TypePattern) : Bool :=
  p.baseClass ≠ q.baseClass ||
    (p.subClass ≠ q.subClass && p.subClass ≠ randomValueIndicate && q.subClass ≠ randomValueIndicate) ||
    (p.protocol ≠ q.protocol && p.protocol ≠ randomValueIndicate && q.protocol ≠ randomValueIndicate)

theorem apart_symm (p q : TypePattern) : p.apart q = q.apart p := by
  rw [Bool.eq_iff_iff]
  simp only [TypePattern.apart, Bool.or_eq_true, Bool.and_eq_true, decide_eq_true_eq]
  grind

theorem not_covers_of_apart (p q : TypePattern) (h : p.apart q) (b s r : Int) (hp : p.covers b s r) :
    q.covers b s r = false := by
  simp only [TypePattern.apart, TypePattern.covers, Bool.or_eq_true, Bool.and_eq_true,
    decide_eq_true_eq, Bool.and_eq_false_iff, Bool.or_eq_false_iff, decide_eq_false_iff_not] at h hp ⊢
  grind

/-- No two entries cover the same. -/
structure PatternsDisjoint (table : TypeTable) : Prop where
  keys : (table.map Prod.fst).Nodup
  apart : table.Pairwise fun a b => a.2.apart b.2

theorem disjoint_dTypeMap : PatternsDisjoint dTypeMap := ⟨by decide +kernel, by decide +kernel⟩

theorem disjoint_gTypeMap : PatternsDisjoint gTypeMap := ⟨by decide +kernel, by decide +kernel⟩

section Disjoint

variable {table : TypeTable} (h : PatternsDisjoint table)
include h

theorem PatternsDisjoint.nodup : table.Nodup := List.Nodup.of_map Prod.fst h.keys

theorem PatternsDisjoint.unique (e e' : InterfaceType × TypePattern) (he : e ∈ table) (he' : e' ∈ table)
    (b s r : Int) (hc : e.2.covers b s r) (hc' : e'.2.covers b s r) : e = e' := by
  by_contra hne
  have hsymm : Std.Symm fun a b : InterfaceType × TypePattern => (a.2.apart b.2 : Prop) :=
    ⟨fun a b hab => apart_symm a.2 b.2 ▸ hab⟩
  have hap := h.apart.forall he he' hne
  rw [not_covers_of_apart _ _ hap b s r hc] at hc'
  cases hc'

theorem PatternsDisjoint.lookup (e : InterfaceType × TypePattern) (he : e ∈ table) : table.lookup e.1 = some e.2 :=
  (StdMap.lookup_eq_some table h.keys e.1 e.2).mpr he

theorem PatternsDisjoint.find?_eq (visit : VisitOrder table) (b s r : Int) :
    visit.entries.find? (fun e => e.2.covers b s r) = table.find? fun e => e.2.covers b s r := by
  let q : InterfaceType × TypePattern → Bool := fun e => e.2.covers b s r
  show visit.entries.find? q = table.find? q
  rcases ht : table.find? q with - | e
  · rw [List.find?_eq_none] at ht ⊢
    exact fun e he => ht e (visit.perm.mem_iff.mp he)
  · have hmem := List.mem_of_find?_eq_some ht
    have hcovers : q e := List.find?_some ht
    rcases hv : visit.entries.find? q with - | e'
    · exact absurd hcovers (List.find?_eq_none.mp hv e (visit.perm.mem_iff.mpr hmem))
    · have hmem' := visit.perm.mem_iff.mp (List.mem_of_find?_eq_some hv)
      have hcovers' : q e' := List.find?_some hv
      rw [h.unique e' e hmem' hmem b s r hcovers' hcovers]

end Disjoint

end UsbManager.Host
