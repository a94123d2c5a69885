import GuestPlugin.Proofs.Region.StagedBytes

/-! # Successes do not depend on faults

Streams of one file may stand at different places and fail at different calls. What a success says is
found in the file and in the length that is reported, and in nothing else, so two successes on such streams
are the same. This is where a failed call that goes unnoticed, a position taken over from an earlier call,
or a short read taken for a whole one would show.
-/

set_option autoImplicit false

namespace GuestPlugin

/-- Two streams of one file. Nothing is said of their positions and of the calls that fail on them. -/
structure Stream.SameFile (s t : Stream) : Prop where
  content : s.content = t.content
  length : s.length = t.length

theorem byteArray_eq_of_toList {a b : ByteArray} (h : a.data.toList = b.data.toList) : a = b :=
  ByteArray.ext (Array.toList_inj.mp h)

namespace Placement.Fits

variable {p q : Placement} {e : Executable} {rawHeaderSize : Nat} {regionSize : UInt32}

theorem unique (hp : p.Fits e rawHeaderSize regionSize) (hq : q.Fits e rawHeaderSize regionSize) :
    p = q := by
  have hRegion : p.regionSize = q.regionSize := hp.region.trans hq.region.symm
  have hImage : p.imageSize = q.imageSize := UInt32.toNat_inj.mp (hp.image.trans hq.image.symm)
  have hHeader : p.rawHeaderStart = q.rawHeaderStart := by
    apply UInt32.toNat_inj.mp
    have hFirst := hp.header
    have hSecond := hq.header
    omega
  rcases p with ⟨region, image, start⟩
  rcases q with ⟨region', image', start'⟩
  simp only at hRegion hImage hHeader
  rw [hRegion, hImage, hHeader]

end Placement.Fits

namespace Container

theorem Reports.unique {c d : Container} {file : ByteArray} {bytes bytes' : Bytes Header.size}
    {header header' : Header} (hc : c.Reports file bytes header) (hd : d.Reports file bytes' header')
    (hLength : c.fileLength = d.fileLength) : c = d := by
  obtain rfl : bytes = bytes' := Bytes.ext_toList (hc.front.trans hd.front.symm)
  obtain rfl : header = header' := Except.ok.inj (hc.decoded.symm.trans hd.decoded)
  have hPayloads : c.payloads = d.payloads := by
    have hSave : c.payloads.save = d.payloads.save :=
      byteArray_eq_of_toList (hc.save.trans hd.save.symm)
    have hLoad : c.payloads.load = d.payloads.load :=
      byteArray_eq_of_toList (hc.load.trans hd.load.symm)
    rcases hFirst : c.payloads with ⟨save, load⟩
    rcases hSecond : d.payloads with ⟨save', load'⟩
    simp only [hFirst, hSecond] at hSave hLoad
    rw [hSave, hLoad]
  have hRawHeader : c.rawHeader = d.rawHeader :=
    byteArray_eq_of_toList (hc.rawHeader.trans hd.rawHeader.symm)
  have hVersion : c.version = d.version := hc.version.trans hd.version.symm
  have hManifest : c.manifest = d.manifest := hc.manifest.trans hd.manifest.symm
  have hTargets : c.targets = d.targets := hc.targets.trans hd.targets.symm
  have hExecutable : c.executable = d.executable := hc.executable.trans hd.executable.symm
  rcases c with ⟨version, manifest, targets, executable, payloads, rawHeader, fileLength⟩
  rcases d with ⟨version', manifest', targets', executable', payloads', rawHeader', fileLength'⟩
  simp only at hVersion hManifest hTargets hExecutable hPayloads hRawHeader hLength
  rw [hVersion, hManifest, hTargets, hExecutable, hPayloads, hRawHeader, hLength]

theorem parse_unique {s s' t t' : Stream} {c d : Container} (hSame : s.SameFile t)
    (hs : parse s = (.ok c, s')) (ht : parse t = (.ok d, t')) : c = d := by
  obtain ⟨hLength, _, _, hReports⟩ := reports_of_parse hs
  obtain ⟨hLength', _, _, hReports'⟩ := reports_of_parse ht
  rw [hSame.content] at hReports
  exact hReports.unique hReports' (hLength.trans (hSame.length.trans hLength'.symm))

theorem IsStaged.unique {c : Container} {size : UInt32} {memory staged staged' : Bytes size.toNat}
    {file : ByteArray} {p q : Placement} (hp : c.IsStaged memory file p staged)
    (hq : c.IsStaged memory file q staged') : p = q ∧ staged = staged' := by
  obtain rfl := hp.fits.unique hq.fits
  exact ⟨rfl, Bytes.ext_toList (hp.bytes.trans hq.bytes.symm)⟩

theorem content_eq_of_resumed {s s' u : Stream} {c : Container} (hParse : parse s = (.ok c, s'))
    (h : u = s' ∨ u.SameFile s) : u.content = s.content := by
  rcases h with rfl | hFresh
  · exact content_of_parse hParse
  · exact hFresh.content

/-- What is read of a file and staged in a memory is the same for all streams of the file, as far as they
let it succeed. Staging may go on with the stream that was read or with a new one. -/
theorem successes_agree {s s' t t' : Stream} {c d : Container} (hSame : s.SameFile t)
    (hs : parse s = (.ok c, s')) (ht : parse t = (.ok d, t')) :
    c = d ∧
      ∀ (size : UInt32) (memory staged staged' : Bytes size.toNat) (u u' v v' : Stream)
        (p q : Placement),
        (u = s' ∨ u.SameFile s) → (v = t' ∨ v.SameFile t) →
        c.stage memory u = some ⟨.ok p, staged, u'⟩ →
        d.stage memory v = some ⟨.ok q, staged', v'⟩ → p = q ∧ staged = staged' := by
  have hRead := parse_unique hSame hs ht
  refine ⟨hRead, ?_⟩
  intro size memory staged staged' u u' v v' p q hu hv hFirst hSecond
  have hFirst := isStaged_of_stage hFirst
  have hSecond := isStaged_of_stage hSecond
  rw [content_eq_of_resumed hs hu, hRead] at hFirst
  rw [content_eq_of_resumed ht hv, ← hSame.content] at hSecond
  exact hFirst.unique hSecond

/-- A stream of the file above that begins in its middle, and on which calls fail once this many of their
kind were made. -/
def tiring (calls : Nat) : Stream :=
  { Stream.ofContent sharingFile with
    seekFails := (calls < ·)
    readFails := (calls < ·)
    position := 7 }

set_option maxRecDepth 100000 in
/-- Reading takes three calls of each kind here and staging two. The stream that was read is of no use
afterwards. -/
theorem tired_stream_agrees :
    ∃ c s' t' p staged u' v', parse (.ofContent sharingFile) = (.ok c, s') ∧
      parse (tiring 3) = (.ok c, t') ∧ c.stage staleMemory s' = some ⟨.ok p, staged, u'⟩ ∧
      c.stage staleMemory (tiring 2) = some ⟨.ok p, staged, v'⟩ := by
  have hCheck : (((parse (tiring 3)).1.toOption.bind fun d =>
      d.stage staleMemory (tiring 2)).any (·.result.toBool)) := by decide +kernel
  obtain ⟨c, s', p, staged, u', hs, hFirst⟩ := exists_staged_sharingFile
  obtain ⟨d, t', q, staged', v', ht, hSecond⟩ := exists_staged_of_check hCheck
  have hSame : (Stream.ofContent sharingFile).SameFile (tiring 3) := ⟨rfl, rfl⟩
  have hFresh : (tiring 2).SameFile (tiring 3) := ⟨rfl, rfl⟩
  obtain ⟨rfl, hStaged⟩ := successes_agree hSame hs ht
  obtain ⟨rfl, rfl⟩ := hStaged _ _ _ _ _ _ _ _ _ _ (.inl rfl) (.inr hFresh) hFirst hSecond
  exact ⟨c, s', t', p, staged, u', v', hs, ht, hFirst, hSecond⟩

end Container
end GuestPlugin
