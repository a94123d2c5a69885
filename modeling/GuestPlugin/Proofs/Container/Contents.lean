import GuestPlugin.Proofs.Container.Reading

/-! # What a container says is what its file says

This holds of every stream, whichever of its calls fail: what was read before a failure is not kept, so a
container that was read has nothing in it but the header at the front of the file and the bytes in the
ranges that this header declares.
-/

set_option autoImplicit false

namespace GuestPlugin

theorem Header.version_of_checkLead {lead : Bytes Header.leadSize} {version : UInt32}
    (h : Header.checkLead lead = .ok version) : version = 2 := by
  unfold Header.checkLead at h
  simp only at h
  split at h
  · cases h
  split at h
  · cases h
  split at h
  · cases h
  · rename_i _ hOld hNew
    cases h
    have hLower : ¬ (lead.word 4 (by decide)).toNat < 2 := fun hLess => hOld hLess
    have hUpper : ¬ 2 < (lead.word 4 (by decide)).toNat := fun hLess => hNew hLess
    apply UInt32.toNat_inj.mp
    change (lead.word 4 (by decide)).toNat = 2
    omega

namespace Container

open Reading

/-- A container that says what a file says under this header, which is the one at its front. -/
structure Reports (c : Container) (file : ByteArray) (bytes : Bytes Header.size) (header : Header) :
    Prop where
  front : bytes.toList = Stream.sliceOf file 0 Header.size
  decoded : Header.decode bytes = .ok header
  version : c.version = 2
  manifest : c.manifest = header.manifest
  targets : c.targets = .ofList (Targets.titles header.targetCount.toNat
    (Stream.sliceOf file header.targetOffset.toNat (8 * header.targetCount.toNat)))
  executable : c.executable = header.executable
  save : c.payloads.save.data.toList =
    Stream.sliceOf file header.save.offset.toNat header.save.size.toNat
  load : c.payloads.load.data.toList =
    Stream.sliceOf file header.load.offset.toNat header.load.size.toNat
  rawHeader : c.rawHeader.data.toList = Stream.sliceOf file 0 Header.size ++
    Stream.sliceOf file header.targetOffset.toNat (8 * header.targetCount.toNat)

theorem ReadsHeader.front {s s' : Stream} {version : UInt32} {bytes : Bytes Header.size}
    (h : ReadsHeader s version bytes s') :
    version = 2 ∧ bytes.toList = Stream.sliceOf s.content 0 Header.size ∧
      s'.content = s.content := by
  cases h with
  | intro hSeek hLead hVersion hRest =>
    obtain ⟨hStart, hContent⟩ := Stream.position_of_seek hSeek
    obtain ⟨hMiddle, hSame⟩ := Stream.position_of_read hLead
    obtain ⟨_, hEnd⟩ := Stream.position_of_read hRest
    refine ⟨Header.version_of_checkLead hVersion, ?_, (hEnd.trans hSame).trans hContent⟩
    rw [Bytes.toList_append, (Stream.read_eq_some hLead).2, (Stream.read_eq_some hRest).2, hMiddle,
      hSame, hStart, hContent]
    exact List.take_add.symm

theorem reports_of_parse {s s' : Stream} {c : Container} (h : parse s = (.ok c, s')) :
    c.fileLength = s.length ∧ ∃ bytes header, c.Reports s.content bytes header := by
  cases parse_eq_ok_iff.mp h with
  | @intro atEnd behindHeader behindArray behindSave _ length _ bytes header array save load hSeek
      hHeader hDecode hArray hSave hLoad =>
    have hAtEnd : atEnd.content = s.content := by rw [← s.content_seekEnd, hSeek]
    obtain ⟨hVersion, hFront, hBehind⟩ := hHeader.front
    obtain ⟨hArrayBytes, hAfterArray⟩ := Stream.readRange_eq_some hArray
    obtain ⟨hSaveBytes, hAfterSave⟩ := Stream.readRange_eq_some hSave
    obtain ⟨hLoadBytes, _⟩ := Stream.readRange_eq_some hLoad
    rw [hAtEnd] at hFront hBehind
    rw [hBehind] at hArrayBytes hAfterArray
    rw [hAfterArray] at hSaveBytes hAfterSave
    rw [hAfterSave] at hLoadBytes
    refine ⟨Stream.seekEnd_eq_some hSeek, bytes, header, ?_⟩
    exact {
      front := hFront
      decoded := hDecode
      version := hVersion
      manifest := rfl
      targets := by rw [hArrayBytes]
      executable := rfl
      save := hSaveBytes
      load := hLoadBytes
      rawHeader := by
        have hBytes : bytes.toByteArray.data.toList = Stream.sliceOf s.content 0 Header.size :=
          hFront
        rw [ByteArray.data_append, Array.toList_append, hBytes, hArrayBytes] }

end Container
end GuestPlugin
