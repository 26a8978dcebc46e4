import CollectionTypes.Proofs.Outcome
import CollectionTypes.Source.Files

/-!
# Where paths lead

A path *leads* to a place if every part of it before the last is a directory, and if
the system refuses none of them (`Files.Leads`). Writing puts a file at the place that a
path leads to, and nowhere else (`node?_write`). Since there was no directory at that place,
and the system refuses what it refused before, all paths lead where they led before
(`leads_write_iff`): what is written is read back (`content_write_self`), and what is read
elsewhere does not change (`content_write_of_apart`).

Whether a path leads to something cannot always be told. A walk is stopped by what is in the way
of one part (`walk_error_iff`); if that is a refusal, and not merely something that is not there,
the path cannot be looked up (`Files.Searchable`, `exists_has_iff`).
-/

namespace CollectionTypes.Files

open Outcome

/-- **Where a path leads.** -/
def Leads (fs : Files) (p : Path) (place : List String) : Prop :=
  fs.lead p = .ok place

/-- **Paths that lead apart**: there is no place that both lead to. -/
def Apart (fs : Files) (p q : Path) : Prop :=
  ∀ place, fs.Leads p place → ¬ fs.Leads q place

instance (fs : Files) (p q : Path) : Decidable (fs.Apart p q) :=
  match h : fs.lead p with
  | .error _ => .isTrue fun place hp => by
      rw [Leads, h] at hp
      cases hp
  | .ok place => decidable_of_iff (fs.lead q ≠ .ok place) <| by
      constructor
      · intro hq place' hp hq'
        rw [Leads, h] at hp
        cases hp
        exact hq hq'
      · exact fun hapart hq => hapart place h hq

variable {fs fs' : Files} {p q : Path} {s : String} {place : List String}

/-! ## One node more -/

theorem find?_filter_bne (ns : List (List String × Node)) {place q : List String}
    (h : place ≠ q) :
    (ns.filter fun n => n.1 != place).find? (fun n => n.1 == q)
      = ns.find? fun n => n.1 == q := by
  rw [List.find?_filter]
  refine congrArg (ns.find? ·) (funext fun n => ?_)
  by_cases hn : n.1 = q
  · simp [hn, Ne.symm h]
  · simp [hn]

/-- A node that is put somewhere is found there, unless there is always a directory. -/
theorem node?_put (fs : Files) (place : List String) (node : Node) (q : List String) :
    (fs.put place node).node? q
      = if q.all isOutward then some .directory
        else if place = q then some node else fs.node? q := by
  unfold node? put
  by_cases hout : q.all isOutward = true
  · rw [if_pos hout, if_pos hout]
  · rw [if_neg hout, if_neg hout, if_neg hout, List.find?_cons]
    by_cases hq : place = q
    · simp [hq]
    · rw [if_neg hq, find?_filter_bne _ hq, beq_false_of_ne hq]

/-- A file that is put where no directory is leaves every directory one. -/
theorem node?_put_eq_directory_iff (h : fs.node? place ≠ some .directory) (c : Content)
    (q : List String) :
    (fs.put place (.file c)).node? q = some .directory ↔ fs.node? q = some .directory := by
  rw [node?_put]
  by_cases hout : q.all isOutward = true
  · rw [if_pos hout, node?, if_pos hout]
  · rw [if_neg hout]
    by_cases hq : place = q
    · rw [if_pos hq, ← hq]
      simp [h]
    · rw [if_neg hq]

/-- Nothing is in the way at a directory, unless the system refuses to look there. -/
theorem hurdle?_eq_none_iff {part : String} :
    fs.hurdle? place part = none
      ↔ fs.node? place = some .directory ∧ fs.refusals.lookup place part = none := by
  unfold hurdle?
  cases fs.node? place with
  | none => simp
  | some node => cases node <;> simp

/-- A file that is put where no directory is stands in no way. -/
theorem hurdle?_put_eq_none_iff (h : fs.node? place ≠ some .directory) (c : Content)
    (q : List String) (part : String) :
    (fs.put place (.file c)).hurdle? q part = none ↔ fs.hurdle? q part = none := by
  rw [hurdle?_eq_none_iff, hurdle?_eq_none_iff, node?_put_eq_directory_iff h]
  rfl

/-- A walk goes on where nothing is in the way. -/
theorem walk_cons_ok_iff {start : List String} {part : String} {rest : List String} :
    fs.walk start (part :: rest) = .ok place
      ↔ fs.hurdle? start part = none ∧ fs.walk (further start part) rest = .ok place := by
  rw [walk]
  cases fs.hurdle? start part <;> simp

/-- **A file that is put where no directory is** leaves every walk as it was. -/
theorem walk_put_ok_iff (h : fs.node? place ≠ some .directory) (c : Content)
    (start parts q : List String) :
    (fs.put place (.file c)).walk start parts = .ok q ↔ fs.walk start parts = .ok q := by
  induction parts generalizing start with
  | nil => rfl
  | cons part rest ih => rw [walk_cons_ok_iff, walk_cons_ok_iff, hurdle?_put_eq_none_iff h, ih]

theorem leads_iff :
    fs.Leads p place ↔ p.isTooLong = false ∧ fs.walk (start p) p.parts = .ok place := by
  unfold Leads lead
  cases p.isTooLong <;> simp

/-! ## Reading and writing -/

/-- **Reading** finds a file where a path leads, if the system opens it. -/
theorem content_ok_iff {c : Content} :
    fs.content p = .ok c ↔ ∃ place, fs.Leads p place ∧ fs.node? place = some (.file c)
      ∧ fs.refusals.opening place = none := by
  unfold content follow Leads
  simp only [bind_ok_iff]
  constructor
  · rintro ⟨⟨place, node⟩, ⟨place', hplace, hnode⟩, hc⟩
    cases hn : fs.node? place' with
    | none =>
      rw [hn] at hnode
      cases hnode
    | some found =>
      rw [hn] at hnode
      obtain ⟨rfl, rfl⟩ := Prod.mk.inj (pure_ok_iff.mp hnode)
      cases hopening : fs.refusals.opening place with
      | some fault =>
        rw [hopening] at hc
        cases hc
      | none =>
        rw [hopening] at hc
        cases node with
        | directory => cases hc
        | file c' => exact ⟨place, hplace, by rw [hn, pure_ok_iff.mp hc], hopening⟩
  · rintro ⟨place, hplace, hnode, hopening⟩
    refine ⟨(place, .file c), ⟨place, hplace, by rw [hnode]; rfl⟩, ?_⟩
    rw [hopening]
    rfl

/-- What is written is no directory, and the system refuses nothing about it. -/
theorem writeFault?_eq_none_iff :
    fs.writeFault? place = none ↔ fs.node? place ≠ some .directory
      ∧ fs.refusals.opening place = none ∧ fs.refusals.writing place = none := by
  unfold writeFault?
  by_cases h : fs.node? place = some .directory <;> simp [h]

/-- **Writing** puts a file where a path leads, if nothing keeps it from there. -/
theorem write_ok_iff :
    fs.write p s = .ok fs' ↔ ∃ place, fs.Leads p place ∧ fs.writeFault? place = none
      ∧ fs' = fs.put place (.file (.text s)) := by
  unfold write Leads
  rw [bind_ok_iff]
  refine exists_congr fun place => and_congr_right fun _ => ?_
  cases fs.writeFault? place with
  | none => exact pure_ok_iff.trans (by simp)
  | some fault => simp

/-- Writing leaves all paths leading where they led. -/
theorem leads_write_iff (h : fs.write p s = .ok fs') (q : Path) (place : List String) :
    fs'.Leads q place ↔ fs.Leads q place := by
  obtain ⟨written, -, hfree, rfl⟩ := write_ok_iff.mp h
  rw [leads_iff, leads_iff, walk_put_ok_iff (writeFault?_eq_none_iff.mp hfree).1]

/-- Writing leaves the system refusing what it refused. -/
theorem refusals_write (h : fs.write p s = .ok fs') : fs'.refusals = fs.refusals := by
  obtain ⟨written, -, -, rfl⟩ := write_ok_iff.mp h
  rfl

/-- **Writing changes nothing elsewhere**: only where the path leads. -/
theorem node?_write (h : fs.write p s = .ok fs') (hchanged : fs'.node? place ≠ fs.node? place) :
    fs.Leads p place := by
  obtain ⟨written, hleads, -, rfl⟩ := write_ok_iff.mp h
  by_cases hplace : written = place
  · exact hplace ▸ hleads
  · refine absurd ?_ hchanged
    rw [node?_put, if_neg hplace]
    by_cases hout : place.all isOutward = true
    · rw [if_pos hout, node?, if_pos hout]
    · rw [if_neg hout]

/-- **What is written is read back.** -/
theorem content_write_self (h : fs.write p s = .ok fs') : fs'.content p = .ok (.text s) := by
  have hlead := leads_write_iff h
  obtain ⟨place, hleads, hfault, rfl⟩ := write_ok_iff.mp h
  obtain ⟨hfree, hopening, -⟩ := writeFault?_eq_none_iff.mp hfault
  refine content_ok_iff.mpr ⟨place, (hlead p place).mpr hleads, ?_, hopening⟩
  have hinside : ¬ place.all isOutward = true := fun hout => hfree (by rw [node?, if_pos hout])
  rw [node?_put, if_neg hinside, if_pos rfl]

/-- **What is read elsewhere stays as it is.** -/
theorem content_write_of_apart (h : fs.write p s = .ok fs') (hapart : fs.Apart p q) {c : Content} :
    fs'.content q = .ok c ↔ fs.content q = .ok c := by
  rw [content_ok_iff, content_ok_iff, refusals_write h]
  refine exists_congr fun place => ?_
  rw [leads_write_iff h]
  refine and_congr_right fun hq => ?_
  have hsame : fs'.node? place = fs.node? place := by
    by_contra hchanged
    exact hapart place (node?_write h hchanged) hq
  rw [hsame]

/-! ## Whether there is something -/

/-- **A path that can be looked up.** It is not too long, and no directory on its way refuses to
look up the next part, unless that means that there is no such part. What has a nul character
in it is no path, and nothing is looked up at all. -/
def Searchable (fs : Files) (p : Path) : Prop :=
  p.hasNul = true ∨ p.isTooLong = false ∧ ∀ before part after place,
    p.parts = before ++ part :: after → fs.walk (start p) before = .ok place →
    fs.node? place = some .directory →
    ∀ fault ∈ fs.refusals.lookup place part, fault.isAbsence = true

/-- What is read is there. -/
theorem has_of_content {c : Content} (hnul : p.hasNul = false) (h : fs.content p = .ok c) :
    fs.has p = .ok true := by
  obtain ⟨found, hfollow, -⟩ := bind_ok_iff.mp h
  unfold has
  rw [hnul, hfollow]
  rfl

/-- Two walks, one behind the other. -/
theorem walk_append (start before rest : List String) :
    fs.walk start (before ++ rest) = fs.walk start before >>= fun place => fs.walk place rest := by
  induction before generalizing start with
  | nil => rfl
  | cons part before ih =>
    rw [List.cons_append, walk, walk]
    cases fs.hurdle? start part with
    | some fault => rfl
    | none => exact ih (further start part)

/-- **What stops a walk** is in the way of one of the parts, those before it being walked. -/
theorem walk_error_iff {start parts : List String} {fault : FileFault} :
    fs.walk start parts = .error fault ↔ ∃ before part after place,
      parts = before ++ part :: after ∧ fs.walk start before = .ok place
        ∧ fs.hurdle? place part = some fault := by
  constructor
  · intro h
    induction parts generalizing start with
    | nil => cases h
    | cons part rest ih =>
      rw [walk] at h
      cases hhurdle : fs.hurdle? start part with
      | some fault' =>
        rw [hhurdle] at h
        obtain rfl := Except.error.inj h
        exact ⟨[], part, rest, start, rfl, rfl, hhurdle⟩
      | none =>
        rw [hhurdle] at h
        obtain ⟨before, part', after, place, rfl, hwalk, hstop⟩ := ih h
        exact ⟨part :: before, part', after, place, rfl, walk_cons_ok_iff.mpr ⟨hhurdle, hwalk⟩,
          hstop⟩
  · rintro ⟨before, part, after, place, rfl, hwalk, hstop⟩
    rw [walk_append, hwalk, ok_bind, walk, hstop]

/-- What is in the way is an absence, or else a directory that refuses. -/
theorem forall_hurdle_iff {part : String} :
    (∀ fault, fs.hurdle? place part = some fault → fault.isAbsence = true)
      ↔ (fs.node? place = some .directory →
          ∀ fault ∈ fs.refusals.lookup place part, fault.isAbsence = true) := by
  unfold hurdle?
  cases fs.node? place with
  | none => simp [FileFault.isAbsence, FileFault.noSuchFile]
  | some node => cases node <;> simp [FileFault.isAbsence, FileFault.notDirectory]

/-- Whether there is something is told unless the path leads into a fault that is no absence. -/
theorem exists_has_iff_lead : (∃ there, fs.has p = .ok there)
    ↔ p.hasNul = true ∨ ∀ fault, fs.lead p = .error fault → fault.isAbsence = true := by
  unfold has follow
  cases p.hasNul with
  | true => simp
  | false =>
    cases fs.lead p with
    | error fault => cases habsent : fault.isAbsence <;> simp [habsent, bind, Except.bind]
    | ok place => cases hnode : fs.node? place <;>
        simp [hnode, bind, Except.bind, pure, Except.pure, FileFault.isAbsence, FileFault.noSuchFile]

/-- **Whether there is something** is told exactly of the paths that can be looked up. -/
theorem exists_has_iff : (∃ there, fs.has p = .ok there) ↔ fs.Searchable p := by
  rw [exists_has_iff_lead, lead]
  refine or_congr_right ?_
  cases p.isTooLong with
  | true => simp [FileFault.isAbsence, FileFault.nameTooLong]
  | false =>
    simp only [Bool.false_eq_true, if_false, true_and, walk_error_iff, ← forall_hurdle_iff]
    constructor
    · intro h before part after place hparts hwalk fault hstop
      exact h fault ⟨before, part, after, place, hparts, hwalk, hstop⟩
    · rintro h fault ⟨before, part, after, place, hparts, hwalk, hstop⟩
      exact h before part after place hparts hwalk fault hstop

/-- A name of three hundred characters leads nowhere. -/
example : Files.empty.lead ⟨"", [String.ofList (List.replicate 300 'a')]⟩
    = .error .nameTooLong := by
  decide +kernel

end CollectionTypes.Files
