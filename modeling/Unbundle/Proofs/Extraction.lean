import Unbundle.Extraction
import Unbundle.Proofs.Paths
import Unbundle.Proofs.Work

/-!
# Writing extracted files only adds

Making directories and creating files are additions, so nothing that was there before is changed,
however far the writing gets (`Extraction.within_writeAll`). Above a file directories are made, and
nothing else (`ModuleFile.makeParents_run`). The files are created one after the other up to the
first one that cannot be; what is new then are the files before it, each in a place of its own,
perhaps a beginning of that one, and directories (`Extraction.writeAll_run`).
-/

namespace Unbundle

open Work (Within)
open Operation (IsAddition)
open FileStore (Extends)

variable {errors : Error → Prop}

/-- A path may be handed to a store: it is acceptable, or the complaint about it is expected. -/
def MayHand (errors : Error → Prop) (path : Path) : Prop :=
  FileStore.acceptable path.toString = false → errors (.invalid .embeddedNul)

/-- A path made of names of another one may be handed over if that one may. -/
theorem MayHand.of_subset {p q : Path} (h : MayHand errors p) (hsub : q.parts ⊆ p.parts) :
    MayHand errors q := by
  intro hq
  apply h
  rw [← Bool.not_eq_true] at hq ⊢
  rw [Path.acceptable_toString_iff] at hq ⊢
  exact fun hp => hq fun name hname => hp name (hsub hname)

/-! ## Directories on the way -/

/-- A path that is another one, or one above it. -/
def Path.Leading (q p : Path) : Prop := q.root = p.root ∧ q.parts <+: p.parts

/-- An operation that makes a directory on the way to `directory`. -/
def Operation.Paves (directory : Path) (op : Operation) : Prop :=
  ∃ q : Path, q.Leading directory ∧ op = .makeDirectory q.toString

open Operation (Paves)

theorem Operation.Paves.isAddition {directory : Path} {op : Operation} (h : Paves directory op) :
    op.IsAddition := by
  obtain ⟨q, -, rfl⟩ := h
  trivial

/-- A store in which directories were made on the way to `directory`, and nothing else was done. -/
structure FileStore.Paved (directory : Path) (s t : FileStore) : Prop where
  kept : Extends s t
  made : ∀ l e, t.get? l = some e → s.get? l = none →
    e = .directory ∧ ∃ q : Path, q.Leading directory ∧ t.stat q.toString = .ok (l, .directory)

open FileStore (Paved)

namespace FileStore.Paved

variable {directory : Path} {s t u : FileStore}

theorem refl (directory : Path) (s : FileStore) : Paved directory s s :=
  ⟨.refl s, fun _ _ hnew hfree => nomatch hnew.symm.trans hfree⟩

theorem trans (hst : Paved directory s t) (htu : Paved directory t u) : Paved directory s u := by
  refine ⟨hst.kept.trans htu.kept, fun l e hnew hfree => ?_⟩
  cases hget : t.get? l with
  | none => exact htu.made l e hnew hget
  | some e' =>
    obtain rfl : e' = e := Option.some.inj ((htu.kept.kept l e' hget).symm.trans hnew)
    obtain ⟨rfl, q, hlead, hstat⟩ := hst.made l e' hget hfree
    exact ⟨rfl, q, hlead, FileStore.stat_extends htu.kept hstat⟩

theorem attempt {op : Operation} (h : Paves directory op) (s : FileStore) :
    Paved directory s (op.attempt s) := by
  obtain ⟨q, hlead, rfl⟩ := h
  have hgoes := Operation.goes_carryOut s (.makeDirectory q.toString)
  unfold Operation.attempt
  generalize ((Operation.makeDirectory q.toString).carryOut s).1 = t,
    ((Operation.makeDirectory q.toString).carryOut s).2 = cause at hgoes
  cases hgoes with
  | undone cause => exact .refl directory s
  | broken hbroken => exact absurd hbroken Operation.BreaksOff.not_makeDirectory
  | whole happly =>
    obtain ⟨l, hfree, rfl, hstat⟩ := Operation.makeDirectory_ok happly
    refine ⟨FileStore.extends_set hfree _, fun m e hnew hm => ?_⟩
    by_cases hml : m = l
    · rw [hml, FileStore.get?_set_self s (FileStore.ne_nil_of_get?_none hfree)] at hnew
      obtain rfl := Option.some.inj hnew
      exact ⟨rfl, q, hlead, hml ▸ hstat⟩
    · rw [FileStore.get?_set_ne s hml, hm] at hnew
      exact nomatch hnew

theorem replay : ∀ {ops : List Operation} (s : FileStore), (∀ op ∈ ops, Paves directory op) →
    Paved directory s (Operation.replay s ops)
  | [], s, _ => .refl directory s
  | op :: _, s, h =>
    (attempt (h op (List.mem_cons_self ..)) s).trans
      (replay (op.attempt s) fun o ho => h o (List.mem_cons_of_mem _ ho))

end FileStore.Paved

theorem Work.Within.paved {α : Type} {directory : Path} {x : Work α}
    (h : Within (Paves directory) errors x) (s : FileStore) : Paved directory s (x s).store := by
  rw [h.logged s]
  exact .replay s (h.journal s)

namespace ModuleFile

variable {directory : Path} {wrap : Fault → Error} {root : PathRoot} {path : Path}

/-- After a directory could not be made, it is only looked for. -/
theorem within_lookFor {ops : Operation → Prop} {fault : Fault}
    (hwrap : ∀ fault, errors (wrap fault)) : Within ops errors (lookFor wrap path fault) := by
  refine .bind (.check fun s e he => ?_) fun entry => ?_
  · obtain ⟨fault, -, rfl⟩ := mapError_eq_error.mp he
    exact hwrap fault
  · split
    next => exact .pure ()
    next => exact .fail (hwrap _)

theorem within_makeOne (hwrap : ∀ fault, errors (wrap fault)) (hpath : MayHand errors path)
    (hlead : path.Leading directory) : Within (Paves directory) errors (makeOne wrap path) := by
  refine .bind (.attempt ⟨path, hlead, rfl⟩ hpath) fun fault => ?_
  cases fault with
  | none => exact .pure ()
  | some fault =>
    by_cases hmissing : fault.kind = .notFound
    · simp only [if_pos hmissing]
      exact .fail (hwrap _)
    · simp only [if_neg hmissing]
      exact within_lookFor hwrap

/-- Directories are made one above the other; it is too deep only for more names than levels. -/
theorem within_makeUpTo (hwrap : ∀ fault, errors (wrap fault)) :
    ∀ (levels : Nat) (names : List String), MayHand errors ⟨root, names.reverse⟩ →
      Path.Leading ⟨root, names.reverse⟩ directory →
      (levels < names.length → errors .tooDeep) →
      Within (Paves directory) errors (makeUpTo wrap root levels names)
  | _, [], hpath, hlead, _ => by
    unfold makeUpTo
    exact within_makeOne hwrap hpath hlead
  | levels, name :: above, hpath, hlead, hdeep => by
    have habove : MayHand errors ⟨root, above.reverse⟩ :=
      hpath.of_subset (by simp)
    have hlead' : Path.Leading ⟨root, above.reverse⟩ directory := by
      refine ⟨hlead.1, List.IsPrefix.trans ?_ hlead.2⟩
      exact ⟨[name], List.reverse_cons.symm⟩
    unfold makeUpTo
    refine .bind (.attempt ⟨_, hlead, rfl⟩ hpath) fun fault => ?_
    cases fault with
    | none => exact .pure ()
    | some fault =>
      by_cases hmissing : fault.kind = .notFound
      · simp only [if_pos hmissing]
        cases levels with
        | zero => exact .fail (hdeep (Nat.succ_pos _))
        | succ levels =>
          -- the directory above is missing: it is made first, by the same steps
          exact .bind (within_makeUpTo hwrap levels above habove hlead' fun h =>
            hdeep (Nat.succ_lt_succ h)) fun _ => within_makeOne hwrap hpath hlead
      · simp only [if_neg hmissing]
        exact within_lookFor hwrap

/-- Why a file is not created: a fault is met, too many directories are missing above it, or its
path cannot be handed to a store. -/
inductive Hinders (s : FileStore) (path : Path) : Error → Prop
  | fault (fault : Fault) : Hinders s path (.write path fault)
  | tooDeep (h : s.conditions.maxMissing < path.parent.parts.length) : Hinders s path .tooDeep
  | refused (h : FileStore.acceptable path.toString = false) :
      Hinders s path (.invalid .embeddedNul)

theorem Hinders.of_extends {s t : FileStore} {e : Error} (hx : Extends s t)
    (h : Hinders t path e) : Hinders s path e := by
  cases h with
  | fault fault => exact .fault fault
  | tooDeep h => exact .tooDeep (hx.conditions ▸ h)
  | refused h => exact .refused h

theorem makeParents_eq (path : Path) (s : FileStore) :
    makeParents path s = makeUpTo (.write path) path.root s.conditions.maxMissing
      path.parent.parts.reverse s :=
  Work.check_bind rfl

/-- The directories above a file are made, as far as nothing hinders it. -/
theorem within_makeParents (hwrite : ∀ fault, errors (.write path fault))
    (hpath : MayHand errors path) {levels : Nat}
    (hdeep : levels < path.parent.parts.length → errors .tooDeep) :
    Within (Paves path.parent) errors
      (makeUpTo (.write path) path.root levels path.parent.parts.reverse) := by
  have hparts : path.parent.parts.reverse.reverse = path.parent.parts := List.reverse_reverse _
  refine within_makeUpTo hwrite levels _ (hpath.of_subset ?_) ⟨rfl, [], ?_⟩ ?_
  · rw [hparts]
    exact List.dropLast_subset _
  · rw [List.append_nil, hparts]
  · rw [List.length_reverse]
    exact hdeep

theorem makeParents_adds (hwrite : ∀ fault, errors (.write path fault))
    (hpath : MayHand errors path) (hdeep : errors .tooDeep) :
    Within IsAddition errors (makeParents path) :=
  .check_bind (fun _ _ he => nomatch he) fun _ _ _ =>
    (within_makeParents hwrite hpath fun _ => hdeep).mono (fun _ => Paves.isAddition) fun _ => id

/-- Above a file directories are made, and nothing else. -/
theorem makeParents_run (path : Path) (s : FileStore) :
    Paved path.parent s (makeParents path s).store ∧
      ∀ e, (makeParents path s).result = .error e → Hinders s path e := by
  rw [makeParents_eq]
  have hparents : Within (Paves path.parent) (Hinders s path) (makeUpTo (.write path) path.root
      s.conditions.maxMissing path.parent.parts.reverse) :=
    within_makeParents .fault .refused .tooDeep
  exact ⟨hparents.paved s, hparents.stops s⟩

theorem within_writeNew {text : String} {bom : Bool}
    (hwrite : ∀ fault, errors (.write path fault)) (hpath : MayHand errors path)
    (hdeep : errors .tooDeep) : Within IsAddition errors (writeNew path text bom) :=
  .bind (makeParents_adds hwrite hpath hdeep) fun _ => .perform trivial hpath hwrite

/-- **One file.** Directories are made above it. Then it is created at a free place, with its text
or, if a mishap breaks this off, with a beginning of it; or else nothing more is done. -/
theorem writeNew_run (path : Path) (text : String) (bom : Bool) (s : FileStore) :
    ∃ u, Paved path.parent s u ∧
      (((writeNew path text bom s).result = .ok () ∧
          ∃ l, u.spot false path.toString = .ok (.vacant l false) ∧
            (writeNew path text bom s).store = u.set l (.file (Utf8.encodeFile text bom))) ∨
        ∃ e, (writeNew path text bom s).result = .error e ∧ Hinders s path e ∧
          ((writeNew path text bom s).store = u ∨
            ∃ l part trouble, u.spot false path.toString = .ok (.vacant l false) ∧
              part <+: Utf8.encodeFile text bom ∧
              (writeNew path text bom s).store = u.set l (.file part) ∧
              e = .write path ⟨.trouble trouble, path.toString⟩)) := by
  obtain ⟨hpaved, hstops⟩ := makeParents_run path s
  refine ⟨(makeParents path s).store, hpaved, ?_⟩
  unfold writeNew
  cases hmade : (makeParents path s).result with
  | error e =>
    rw [Work.bind_of_error hmade]
    exact Or.inr ⟨e, rfl, hstops e hmade, Or.inl rfl⟩
  | ok u =>
    rw [Work.bind_of_ok hmade]
    have hcreate : Within (fun _ => True) (Hinders s path) (Work.perform (.write path)
        (.create path.toString (Utf8.encodeFile text bom))) := .perform trivial .refused .fault
    rcases Work.perform_cases (.write path) (.create path.toString (Utf8.encodeFile text bom))
      (makeParents path s).store with
      ⟨hresult, happly⟩ | ⟨e, hresult, hstore⟩ | ⟨trouble, hresult, hbroken⟩
    · obtain ⟨l, hspot, hset⟩ := Operation.create_spot happly
      exact Or.inl ⟨hresult, l, hspot, hset⟩
    · exact Or.inr ⟨e, hresult, hcreate.stops _ e hresult, Or.inl hstore⟩
    · obtain ⟨part, hpart, happly⟩ := hbroken.create
      obtain ⟨l, hspot, hset⟩ := Operation.create_spot happly
      exact Or.inr ⟨_, hresult, .fault _,
        Or.inr ⟨l, part, trouble, hspot, hpart, hset, rfl⟩⟩

end ModuleFile

namespace Extraction

theorem within_writeAll {bom : Bool} (hdeep : errors .tooDeep) :
    ∀ {outcomes : List Outcome},
      (∀ o ∈ outcomes, MayHand errors (o.path.getD {}) ∧
        ∀ fault, errors (.write (o.path.getD {}) fault)) →
      Within IsAddition errors (writeAll bom outcomes)
  | [], _ => .pure []
  | o :: rest, h => by
    obtain ⟨hpath, hwrite⟩ := h o (List.mem_cons_self ..)
    have hrest : Within IsAddition errors (writeAll bom rest) :=
      within_writeAll hdeep fun o' ho' => h o' (List.mem_cons_of_mem _ ho')
    exact .bind (ModuleFile.within_writeNew hwrite hpath hdeep) fun _ =>
      .bind (.tell _) fun _ => .bind hrest fun _ => .pure _

/-- A file that was created: the outcome that it is for, its place, and what is in it. -/
structure Placement where
  outcome : Outcome
  location : Location
  content : Bytes

/-- The file holds all of its text. -/
def Placement.Whole (bom : Bool) (p : Placement) : Prop :=
  p.content = Utf8.encodeFile p.outcome.callable.text bom

/-- The file is what a mishap left of the one of an outcome: a beginning of it. The error tells of
the trouble. -/
structure Placement.Torn (bom : Bool) (o : Outcome) (e : Error) (p : Placement) : Prop where
  outcome : p.outcome = o
  content : p.content <+: Utf8.encodeFile o.callable.text bom
  error : ∃ trouble, e = .write (o.path.getD {}) ⟨.trouble trouble, (o.path.getD {}).toString⟩

/-- What a store is like after files were created: nothing else is changed, the files are new, at
the ends of their paths and with their contents, each in a place of its own, and what is new besides
them are directories on the way to the paths in `planned`. -/
structure Added (planned : List Path) (s t : FileStore) (placed : List Placement) : Prop where
  kept : Extends s t
  files : ∀ p ∈ placed, s.get? p.location = none ∧
    t.spot false (p.outcome.path.getD {}).toString = .ok (.found p.location (.file p.content))
  nodup : (placed.map (·.location)).Nodup
  others : ∀ l e, t.get? l = some e → s.get? l = none → l ∉ placed.map (·.location) →
    e = .directory ∧ ∃ p ∈ planned, ∃ q : Path, q.Leading p.parent ∧
      t.stat q.toString = .ok (l, .directory)

namespace Added

variable {planned : List Path} {s t u : FileStore} {placed : List Placement}

theorem refl (planned : List Path) (s : FileStore) : Added planned s s [] :=
  ⟨.refl s, fun _ h => (nomatch h), .nil, fun _ _ hnew hfree _ => nomatch hnew.symm.trans hfree⟩

/-- No file, but directories on the way to one. -/
theorem paved {p : Path} (hp : p ∈ planned) (h : Paved p.parent s t) : Added planned s t [] := by
  refine ⟨h.kept, fun _ hmem => (nomatch hmem), .nil, fun l e hnew hfree _ => ?_⟩
  obtain ⟨rfl, hway⟩ := h.made l e hnew hfree
  exact ⟨rfl, p, hp, hway⟩

/-- One file more, created before the others. -/
theorem cons {o : Outcome} {l : Location} {content : Bytes} (hp : o.path.getD {} ∈ planned)
    (hpaved : Paved (o.path.getD {}).parent s u)
    (hspot : u.spot false (o.path.getD {}).toString = .ok (.vacant l false))
    (h : Added planned (u.set l (.file content)) t placed) :
    Added planned s t (⟨o, l, content⟩ :: placed) := by
  have hfree := FileStore.get?_of_vacant hspot
  have hcreated := FileStore.extends_set hfree (.file content)
  have hself := FileStore.get?_set_self u (FileStore.ne_nil_of_get?_none hfree) (.file content)
  refine ⟨(hpaved.kept.trans hcreated).trans h.kept, fun p hmem => ?_, ?_, ?_⟩
  · rcases List.mem_cons.mp hmem with rfl | hmem
    · have hfile := FileStore.spot_set_vacant (e := .file content) (by simp) (by simp) hspot
      exact ⟨hpaved.kept.none hfree, FileStore.spot_extends h.kept hfile⟩
    · obtain ⟨hother, hfile⟩ := h.files p hmem
      exact ⟨hpaved.kept.none (hcreated.none hother), hfile⟩
  · -- the place is taken when the other files are created
    refine List.nodup_cons.mpr ⟨fun hmem => ?_, h.nodup⟩
    obtain ⟨p, hplaced, hlocation⟩ := List.mem_map.mp hmem
    have hother := (h.files p hplaced).1
    rw [show p.location = l from hlocation, hself] at hother
    exact nomatch hother
  · intro m e hnew hm hplaces
    rw [List.map_cons, List.mem_cons, not_or] at hplaces
    obtain ⟨hml, hplaces⟩ := hplaces
    cases hget : (u.set l (.file content)).get? m with
    | none => exact h.others m e hnew hget hplaces
    | some e' =>
      obtain rfl : e' = e := Option.some.inj ((h.kept.kept m e' hget).symm.trans hnew)
      rw [FileStore.get?_set_ne u hml] at hget
      obtain ⟨rfl, q, hlead, hstat⟩ := hpaved.made m e' hget hm
      exact ⟨rfl, _, hp, q, hlead, FileStore.stat_extends (hcreated.trans h.kept) hstat⟩

end Added

/-- The writing of files after one of them was created. -/
theorem writeAll_cons {bom : Bool} {o : Outcome} (rest : List Outcome) {s : FileStore}
    (h : (ModuleFile.writeNew (o.path.getD {}) o.callable.text bom s).result = .ok ()) :
    (writeAll bom (o :: rest) s).result =
        (writeAll bom rest (ModuleFile.writeNew (o.path.getD {}) o.callable.text bom
          s).store).result.map (o.path.getD {} :: ·) ∧
      (writeAll bom (o :: rest) s).store =
        (writeAll bom rest (ModuleFile.writeNew (o.path.getD {}) o.callable.text bom
          s).store).store := by
  have hrun : writeAll bom (o :: rest) s = (do
      ModuleFile.writeNew (o.path.getD {}) o.callable.text bom
      Work.tell (.extracted o.callable.name (o.path.getD {}))
      let paths ← writeAll bom rest
      return o.path.getD {} :: paths : Work (List Path)) s := rfl
  rw [hrun, Work.bind_of_ok h]
  simp only
  rw [(Work.tell_bind _ _ _).2.1, (Work.tell_bind _ _ _).2.2]
  cases hrest : (writeAll bom rest (ModuleFile.writeNew (o.path.getD {}) o.callable.text bom
      s).store).result with
  | error e => rw [Work.bind_of_error hrest]; exact ⟨rfl, rfl⟩
  | ok paths => rw [Work.bind_of_ok hrest]; exact ⟨rfl, rfl⟩

/-- **Many files.** Either all files are created and their paths given back, or the writing stops at
one of them. Those before it are then created, and of that one perhaps a beginning. -/
theorem writeAll_run (bom : Bool) (planned : List Path) :
    ∀ {outcomes : List Outcome} (s : FileStore), (∀ o ∈ outcomes, o.path.getD {} ∈ planned) →
      ∃ whole torn, Added planned s (writeAll bom outcomes s).store (whole ++ torn.toList) ∧
        (∀ p ∈ whole, p.Whole bom) ∧
        (((writeAll bom outcomes s).result = .ok (outcomes.map (·.path.getD {})) ∧
            outcomes = whole.map (·.outcome) ∧ torn = none) ∨
          ∃ e o rest, (writeAll bom outcomes s).result = .error e ∧
            outcomes = whole.map (·.outcome) ++ o :: rest ∧
            ModuleFile.Hinders s (o.path.getD {}) e ∧ ∀ p ∈ torn, p.Torn bom o e)
  | [], s, _ => ⟨[], none, .refl planned s, fun _ h => (nomatch h), Or.inl ⟨rfl, rfl, rfl⟩⟩
  | o :: rest, s, hplanned => by
    have hp := hplanned o (List.mem_cons_self ..)
    obtain ⟨u, hpaved, ⟨hnew, l, hspot, hstore⟩ | ⟨e, hnew, hhinders, hleft⟩⟩ :=
      ModuleFile.writeNew_run (o.path.getD {}) o.callable.text bom s
    · obtain ⟨hresult, hend⟩ := writeAll_cons rest hnew
      rw [hresult, hend, hstore]
      have hkept : Extends s (u.set l (.file (Utf8.encodeFile o.callable.text bom))) :=
        hpaved.kept.trans (FileStore.extends_set (FileStore.get?_of_vacant hspot) _)
      obtain ⟨whole, torn, hadded, hwhole, hcases⟩ :=
        writeAll_run bom planned (u.set l _) fun o' ho' => hplanned o' (List.mem_cons_of_mem _ ho')
      refine ⟨⟨o, l, _⟩ :: whole, torn, .cons hp hpaved hspot hadded, ?_, ?_⟩
      · intro p hmem
        rcases List.mem_cons.mp hmem with rfl | hmem
        · exact rfl
        · exact hwhole p hmem
      · rcases hcases with ⟨hok, hall, hnone⟩ | ⟨e, o', rest', herr, hsplit, hhinders, htorn⟩
        · rw [hok]
          exact Or.inl ⟨rfl, congrArg (o :: ·) hall, hnone⟩
        · rw [herr]
          exact Or.inr ⟨e, o', rest', rfl, congrArg (o :: ·) hsplit, hhinders.of_extends hkept,
            htorn⟩
    · have hrun : writeAll bom (o :: rest) s = _ := Work.bind_of_error hnew
      rw [hrun]
      rcases hleft with hstore | ⟨l, part, trouble, hspot, hpart, hstore, herror⟩
      · simp only [hstore]
        exact ⟨[], none, .paved hp hpaved, fun _ h => (nomatch h),
          Or.inr ⟨e, o, rest, rfl, rfl, hhinders, fun _ h => nomatch h⟩⟩
      · simp only [hstore]
        refine ⟨[], some ⟨o, l, part⟩, .cons hp hpaved hspot (.refl planned _),
          fun _ h => (nomatch h), Or.inr ⟨e, o, rest, rfl, rfl, hhinders, fun p hmem => ?_⟩⟩
        obtain rfl := Option.some.inj hmem
        exact ⟨rfl, hpart, trouble, herror⟩

/-- After all files of a list of outcomes were written, they are the paths that are given back, and
each of them is new and holds its text. -/
theorem writeAll_ok {bom : Bool} {outcomes : List Outcome} {s : FileStore} {paths : List Path}
    (h : (writeAll bom outcomes s).result = .ok paths) :
    paths = outcomes.map (·.path.getD {}) ∧
      ∀ o ∈ outcomes, ∃ l, s.get? l = none ∧
        (writeAll bom outcomes s).store.stat (o.path.getD {}).toString =
          .ok (l, .file (Utf8.encodeFile o.callable.text bom)) := by
  obtain ⟨whole, torn, hadded, hwhole, ⟨hresult, hall, -⟩ | ⟨e, o, rest, hresult, -⟩⟩ :=
    writeAll_run bom (outcomes.map (·.path.getD {})) s fun o ho => List.mem_map_of_mem ho
  · refine ⟨Except.ok.inj (h.symm.trans hresult), fun o ho => ?_⟩
    rw [hall] at ho
    obtain ⟨p, hplaced, rfl⟩ := List.mem_map.mp ho
    obtain ⟨hfree, hspot⟩ := hadded.files p (List.mem_append_left _ hplaced)
    rw [hwhole p hplaced] at hspot
    exact ⟨p.location, hfree, FileStore.stat_of_spot (by simp) hspot⟩
  · exact nomatch h.symm.trans hresult

theorem acceptable_of_writeAll {bom : Bool} {outcomes : List Outcome} :
    ∀ {s : FileStore} {paths : List Path}, (writeAll bom outcomes s).result = .ok paths →
      ∀ o ∈ outcomes, FileStore.acceptable (o.path.getD {}).toString = true := by
  induction outcomes with
  | nil =>
    intro s paths _ o ho
    exact absurd ho List.not_mem_nil
  | cons first rest ih =>
    intro s paths h o ho
    obtain ⟨u, hnew, h, -⟩ := Work.bind_ok h
    obtain ⟨u', -, h, -⟩ := Work.bind_ok h
    obtain ⟨others, hrest, -⟩ := Work.bind_ok h
    rcases List.mem_cons.mp ho with rfl | ho
    · obtain ⟨u'', -, hcreate, -⟩ := Work.bind_ok hnew
      have hpath := Work.acceptable_of_perform hcreate
      exact hpath
    · exact ih hrest o ho

theorem within_write {plan : Plan} {bom : Bool}
    (hskip : plan.anySkip = true → errors (.invalid .skipsInExtraction))
    (hdeep : errors .tooDeep)
    (h : ∀ o ∈ plan.writes, MayHand errors (o.path.getD {}) ∧
      ∀ fault, errors (.write (o.path.getD {}) fault)) :
    Within IsAddition errors (write plan bom) := by
  unfold write
  split
  next hany => exact .fail (hskip hany)
  next => exact within_writeAll hdeep h

/-- Whatever the plan, writing its files only adds. -/
theorem write_adds (plan : Plan) (bom : Bool) :
    Within IsAddition (fun _ => True) (write plan bom) :=
  within_write (fun _ => trivial) trivial fun _ _ => ⟨fun _ => trivial, fun _ => trivial⟩

end Extraction

end Unbundle
