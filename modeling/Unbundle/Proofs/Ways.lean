import Unbundle.Proofs.Paths
import Unbundle.Proofs.Walk

/-!
# Ways through directories

A normal path spells exactly its names (`Path.Normal.namesIn_toString`), so that a way along it can
be taken apart name by name. The way to a name in a directory goes to the directory first
(`Leads.of_snoc`). A way that begins with another one goes on from where that one ends
(`Leads.append`). And where there are neither links nor `..`, a way goes straight down
(`Leads.straight`): it ends at the location that it spells.
-/

namespace Unbundle

/-! ## The names in a path -/

/-- A text without separators is one field. -/
theorem Text.fields_of_not_sep {sep : Char → Bool} {cs : List Char}
    (h : ∀ c ∈ cs, ¬ sep c = true) : fields sep cs = [cs] := by
  induction cs with
  | nil => rfl
  | cons c cs ih =>
    have hrest := ih fun d hd => h d (List.mem_cons_of_mem _ hd)
    rw [fields, if_neg (h c (List.mem_cons_self ..)), hrest]

namespace Path

/-- Whether a text is a name as paths keep it. -/
structure IsName (name : String) : Prop where
  ne_empty : name ≠ ""
  ne_dot : name ≠ "."
  no_slash : '/' ∉ name.toList

/-- A path whose names are names, as every path is that was read from a text. -/
def Normal (p : Path) : Prop := ∀ name ∈ p.parts, IsName name

theorem IsName.toList_ne_nil {name : String} (h : IsName name) : name.toList ≠ [] := by
  intro hnil
  exact h.ne_empty (String.toList_eq_nil_iff.mp hnil)

theorem isName_of_mem_partsOf {cs : List Char} {name : String} (h : name ∈ partsOf cs) :
    IsName name := by
  obtain ⟨hmem, hkept⟩ := List.mem_filter.mp h
  obtain ⟨w, hw, rfl⟩ := List.mem_map.mp hmem
  simp only [Bool.and_eq_true, bne_iff_ne, ne_eq] at hkept
  refine ⟨hkept.1, hkept.2, ?_⟩
  rw [String.toList_ofList]
  intro hslash
  exact (Text.mem_of_mem_fields hw _ hslash).2 rfl

theorem normal_ofString (text : String) : (ofString text).Normal :=
  fun _ hname => isName_of_mem_partsOf hname

/-- Names joined by slashes fall apart into these names. -/
theorem fields_intercalate :
    ∀ {parts : List String}, parts ≠ [] → (∀ name ∈ parts, '/' ∉ name.toList) →
      Text.fields (· == '/') ("/".intercalate parts).toList = parts.map String.toList
  | [], hne, _ => absurd rfl hne
  | [name], _, hslash => by
    rw [String.intercalate_singleton]
    refine Text.fields_of_not_sep fun c hc heq => ?_
    rw [eq_of_beq heq] at hc
    exact hslash name (List.mem_singleton_self name) hc
  | name :: next :: rest, _, hslash => by
    have hfirst : Text.fields (· == '/') name.toList = [name.toList] := by
      refine Text.fields_of_not_sep fun c hc heq => ?_
      rw [eq_of_beq heq] at hc
      exact hslash name (List.mem_cons_self ..) hc
    have hrest := fields_intercalate (List.cons_ne_nil next rest) fun n hn =>
      hslash n (List.mem_cons_of_mem _ hn)
    have htext : ("/".intercalate (name :: next :: rest)).toList =
        name.toList ++ '/' :: ("/".intercalate (next :: rest)).toList := by
      rw [String.intercalate_cons_cons, String.toList_append, String.toList_append,
        List.append_assoc]
      rfl
    rw [htext, Text.fields_append_cons (by rfl), hfirst, hrest]
    rfl

/-- The last character of names joined by slashes is the last one of the last name. -/
theorem getLast?_intercalate :
    ∀ {parts : List String} (hne : parts ≠ []), (∀ name ∈ parts, name.toList ≠ []) →
      ("/".intercalate parts).toList.getLast? = (parts.getLast hne).toList.getLast?
  | [], hne, _ => absurd rfl hne
  | [name], _, _ => by rw [String.intercalate_singleton]; rfl
  | name :: next :: rest, _, hnames => by
    have hrest := getLast?_intercalate (List.cons_ne_nil next rest) fun n hn =>
      hnames n (List.mem_cons_of_mem _ hn)
    have hlast := hnames _ (List.mem_cons_of_mem _ (List.getLast_mem (List.cons_ne_nil next rest)))
    obtain ⟨c, hc⟩ := Option.ne_none_iff_exists'.mp (mt List.getLast?_eq_none_iff.mp hlast)
    rw [hc] at hrest
    rw [String.intercalate_cons_cons, String.toList_append, List.getLast?_append, hrest,
      List.getLast_cons (List.cons_ne_nil next rest), hc]
    rfl

/-- Names joined by slashes spell these names. -/
theorem namesIn_intercalate {parts : List String} (hne : parts ≠ [])
    (h : ∀ name ∈ parts, IsName name) :
    FileStore.namesIn ("/".intercalate parts).toList = parts := by
  have hfields := fields_intercalate hne fun name hname => (h name hname).no_slash
  have hkept : (parts.map String.toList).filter (!·.isEmpty) = parts.map String.toList := by
    rw [List.filter_eq_self]
    intro w hw
    obtain ⟨name, hname, rfl⟩ := List.mem_map.mp hw
    simpa using (h name hname).toList_ne_nil
  have hlast : ("/".intercalate parts).toList.getLast? ≠ some '/' := by
    rw [getLast?_intercalate hne fun name hname => (h name hname).toList_ne_nil]
    intro hslash
    exact (h _ (List.getLast_mem hne)).no_slash (List.mem_of_getLast? hslash)
  unfold FileStore.namesIn
  rw [hfields, hkept, if_neg (by simpa using hlast), List.map_map]
  exact (List.map_congr_left fun name _ => String.ofList_toList).trans (List.map_id _)

/-- A slash in front of a text adds no name. -/
theorem namesIn_slash {cs : List Char} (hne : cs ≠ []) :
    FileStore.namesIn ('/' :: cs) = FileStore.namesIn cs := by
  obtain ⟨c, rest, rfl⟩ := List.exists_cons_of_ne_nil hne
  have hfields : Text.fields (· == '/') ('/' :: c :: rest) =
      [] :: Text.fields (· == '/') (c :: rest) := by
    rw [Text.fields]
    rfl
  unfold FileStore.namesIn
  rw [hfields, List.filter_cons_of_neg (by simp), List.getLast?_cons_cons]

namespace Normal

variable {p : Path}

/-- A normal path with names spells these names. -/
theorem namesIn_toString (h : p.Normal) (hne : p.parts ≠ []) :
    FileStore.namesIn p.toString.toList = p.parts := by
  have hnames := namesIn_intercalate hne h
  have hjoined : ("/".intercalate p.parts).toList ≠ [] := by
    intro hnil
    rw [hnil] at hnames
    exact hne hnames.symm
  rw [toString_eq_of_parts hne, String.toList_append]
  cases p.root with
  | relative => exact hnames
  | slash => exact (namesIn_slash hjoined).trans hnames
  | doubleSlash =>
    exact (namesIn_slash (List.cons_ne_nil _ _)).trans ((namesIn_slash hjoined).trans hnames)

/-- A normal relative path does not begin with a slash. -/
theorem not_prefix_toString (h : p.Normal) (hroot : p.root = .relative) :
    ¬ "/".toList <+: p.toString.toList := by
  obtain ⟨root, parts⟩ := p
  obtain rfl : root = .relative := hroot
  cases parts with
  | nil => decide
  | cons name rest =>
    rintro ⟨more, hmore⟩
    have hfields := fields_intercalate (List.cons_ne_nil name rest) fun n hn => (h n hn).no_slash
    rw [toString_eq_of_parts (List.cons_ne_nil name rest)] at hmore
    have hjoined : ("/".intercalate (name :: rest)).toList = '/' :: more := hmore.symm
    rw [hjoined, Text.fields, if_pos (by rfl)] at hfields
    exact (h name (List.mem_cons_self ..)).toList_ne_nil (List.cons.inj hfields).1.symm

end Normal

/-- A path from the root begins with a slash. -/
theorem prefix_toString {p : Path} (hroot : p.root ≠ .relative) :
    "/".toList <+: p.toString.toList := by
  obtain ⟨root, parts⟩ := p
  cases root with
  | relative => exact absurd rfl hroot
  | slash => exact ⟨("/".intercalate parts).toList, (String.toList_append ..).symm⟩
  | doubleSlash =>
    have htext : ("//" ++ "/".intercalate parts).toList =
        "//".toList ++ ("/".intercalate parts).toList := String.toList_append ..
    exact ⟨'/' :: ("/".intercalate parts).toList, htext.symm⟩

end Path

/-! ## Ways -/

namespace FileStore

/-- The directory that paths with a root start from. -/
def startAt (s : FileStore) (root : PathRoot) : Location :=
  if root = .relative then s.workingDir else []

theorem startOf_toString (s : FileStore) {p : Path} (hp : p.Normal) :
    s.startOf p.toString = s.startAt p.root := by
  unfold startOf startAt
  by_cases hroot : p.root = .relative
  · rw [if_pos hroot, if_neg]
    exact fun h => hp.not_prefix_toString hroot (String.startsWith_string_iff.mp h)
  · rw [if_neg hroot, if_pos (String.startsWith_string_iff.mpr (Path.prefix_toString hroot))]

variable {s : FileStore} {follow : Bool} {links : Nat} {here d l : Location}
  {names : List String} {name : String} {e : Entry} {spot : Spot}

/-- A normal path with names leads along these names. -/
theorem leads_of_spot {p : Path} (hp : p.Normal) (hne : p.parts ≠ [])
    (h : s.spot follow p.toString = .ok spot) :
    Leads s follow maxLinks (s.startAt p.root) p.parts spot := by
  obtain ⟨-, hlead⟩ := spot_eq_ok_iff.mp h
  rwa [startOf_toString s hp, hp.namesIn_toString hne] at hlead

/-- A way along a name that stands for nothing ends where it starts. -/
theorem Leads.of_stay (hname : name = "" ∨ name = ".")
    (h : Leads s follow links here [name] (.found l e)) :
    Leads s follow links here [] (.found l e) := by
  have hproper : ¬ Proper name := by
    intro hproper
    rcases hname with rfl | rfl
    · exact hproper.ne_empty rfl
    · exact hproper.ne_dot rfl
  generalize hall : [name] = all at h
  generalize hspot : Spot.found l e = spot at h
  cases h with
  | done => exact absurd hall (by simp)
  | stay _ _ hrest =>
    obtain ⟨-, rfl⟩ := List.cons.inj hall
    exact hrest
  | up =>
    obtain ⟨rfl, -⟩ := List.cons.inj hall
    exact absurd hname (by decide)
  | vacant => cases hspot
  | link _ hname' => exact absurd ((List.cons.inj hall).1 ▸ hname') hproper
  | jump _ hname' => exact absurd ((List.cons.inj hall).1 ▸ hname') hproper
  | down _ hname' => exact absurd ((List.cons.inj hall).1 ▸ hname') hproper

theorem leads_of_stat {p : Path} (hp : p.Normal) (h : s.stat p.toString = .ok (l, e)) :
    Leads s true maxLinks (s.startAt p.root) p.parts (.found l e) := by
  have hspot := stat_eq_ok_iff.mp h
  by_cases hne : p.parts = []
  · -- the path is its root, or the dot that stands for the working directory
    obtain ⟨-, hlead⟩ := spot_eq_ok_iff.mp hspot
    rw [startOf_toString s hp] at hlead
    obtain ⟨root, parts⟩ := p
    obtain rfl : parts = [] := hne
    cases root with
    | relative => exact Leads.of_stay (Or.inr rfl) hlead
    | slash => exact Leads.of_stay (Or.inl rfl) hlead
    | doubleSlash => exact Leads.of_stay (Or.inl rfl) hlead
  · exact leads_of_spot hp hne hspot

/-- The way to a name in a directory leads to the directory, and on to what has this name there. -/
theorem Leads.of_snoc (hempty : name ≠ "") (hdot : name ≠ ".") (hdots : name ≠ "..")
    (h : Leads s false links here (names ++ [name]) spot) :
    ∃ d, Leads s true links here names (.found d .directory) ∧
      ((∃ e, spot = .found (d ++ [name]) e) ∨ spot = .vacant (d ++ [name]) false) := by
  generalize hall : names ++ [name] = all at h
  induction h generalizing names with
  | done => exact absurd hall (by simp)
  | @stay _ _ first rest _ hhere hname _ ih =>
    cases names with
    | nil =>
      obtain rfl : name = first := (List.cons.inj hall).1
      exact absurd hname (by simp [hempty, hdot])
    | cons _ names =>
      obtain ⟨rfl, hrest⟩ := List.cons.inj hall
      obtain ⟨d, hd, hend⟩ := ih hrest
      exact ⟨d, .stay hhere hname hd, hend⟩
  | up hhere _ ih =>
    cases names with
    | nil => exact absurd (List.cons.inj hall).1 hdots
    | cons _ names =>
      obtain ⟨rfl, hrest⟩ := List.cons.inj hall
      obtain ⟨d, hd, hend⟩ := ih hrest
      exact ⟨d, .up hhere hd, hend⟩
  | @vacant _ here first slash hhere hname hnext =>
    cases names with
    | nil =>
      obtain ⟨rfl, hslash⟩ := List.cons.inj hall
      obtain rfl : slash = false := by
        cases slash with
        | false => rfl
        | true => exact absurd hslash (by simp)
      exact ⟨here, .done hhere, Or.inr rfl⟩
    | cons _ names =>
      -- behind the free place there is at most the empty name of a slash
      have hrest : names ++ [name] = if slash then [""] else [] := (List.cons.inj hall).2
      cases slash with
      | false => exact absurd hrest (by simp)
      | true =>
        have hlast : (names ++ [name]).getLast? = some "" := by rw [hrest]; rfl
        rw [List.getLast?_concat] at hlast
        exact absurd (Option.some.inj hlast) hempty
  | @link _ here first target hhere hname hnext hfollow =>
    cases names with
    | nil =>
      obtain rfl : name = first := (List.cons.inj hall).1
      exact ⟨here, .done hhere, Or.inl ⟨_, rfl⟩⟩
    | cons _ names => exact absurd (List.cons.inj hall).2 (by simp)
  | @jump _ here first rest target _ hhere hname hnext hfollow _ ih =>
    cases names with
    | nil => exact absurd ⟨(List.cons.inj hall).2.symm, rfl⟩ hfollow
    | cons _ names =>
      obtain ⟨rfl, rfl⟩ := List.cons.inj hall
      have hmore : (namesIn target.toList ++ names) ++ [name] =
          namesIn target.toList ++ (names ++ [name]) := List.append_assoc ..
      obtain ⟨d, hd, hend⟩ := ih hmore
      exact ⟨d, .jump hhere hname hnext (by simp) hd, hend⟩
  | @down _ here first rest entry _ hhere hname hnext hentry hrest ih =>
    cases names with
    | nil =>
      obtain ⟨rfl, rfl⟩ := List.cons.inj hall
      cases hrest with
      | done => exact ⟨here, .done hhere, Or.inl ⟨_, rfl⟩⟩
    | cons _ names =>
      obtain ⟨rfl, hmore⟩ := List.cons.inj hall
      obtain ⟨d, hd, hend⟩ := ih hmore
      exact ⟨d, .down hhere hname hnext hentry hd, hend⟩

/-- A way that begins with another one goes on from where that one ends. -/
theorem Leads.append (h : Leads s true links here names (.found l e)) {rest : List String}
    (hne : rest ≠ []) (hall : Leads s follow links here (names ++ rest) spot) :
    ∃ fewer, Leads s follow fewer l rest spot := by
  generalize hspot : Spot.found l e = found at h
  induction h with
  | done =>
    cases hspot
    exact ⟨_, hall⟩
  | stay hhere hname _ ih =>
    refine ih ?_ hspot
    have hwalk := walk_of_leads hall
    rw [List.cons_append, walk_stay hhere hname] at hwalk
    exact leads_of_walk hwalk
  | up hhere _ ih =>
    refine ih ?_ hspot
    have hwalk := walk_of_leads hall
    rw [List.cons_append, walk_up hhere] at hwalk
    exact leads_of_walk hwalk
  | vacant => cases hspot
  | link _ _ _ hfollow => cases hfollow
  | @jump _ _ _ more target _ hhere hname hnext _ _ ih =>
    refine ih ?_ hspot
    have hwalk := walk_of_leads hall
    rw [List.cons_append, walk_cons hhere hname, hnext] at hwalk
    simp only at hwalk
    rw [if_neg (by simp [hne]), ← List.append_assoc] at hwalk
    exact leads_of_walk hwalk
  | @down _ _ _ more entry _ hhere hname hnext hentry _ ih =>
    refine ih ?_ hspot
    have hwalk := walk_of_leads hall
    rw [List.cons_append, walk_cons hhere hname, hnext] at hwalk
    cases entry with
    | link target => exact absurd rfl (hentry target)
    | directory => exact leads_of_walk hwalk
    | file content => exact leads_of_walk hwalk

/-- Without links below it and without dots, a way goes straight down. -/
theorem Leads.straight (hnames : ∀ name ∈ names, name ≠ "" ∧ name ≠ "." ∧ name ≠ "..")
    (hlinks : ∀ below target, s.get? (here ++ below) ≠ some (.link target))
    (h : Leads s follow links here names (.found d e)) : d = here ++ names := by
  generalize hspot : Spot.found d e = found at h
  induction h with
  | done =>
    cases hspot
    exact (List.append_nil _).symm
  | stay _ hname _ _ =>
    obtain ⟨hempty, hdot, -⟩ := hnames _ (List.mem_cons_self ..)
    exact absurd hname (by simp [hempty, hdot])
  | up => exact absurd rfl (hnames _ (List.mem_cons_self ..)).2.2
  | vacant => cases hspot
  | link _ _ hnext _ => exact absurd hnext (hlinks _ _)
  | jump _ _ hnext _ _ _ => exact absurd hnext (hlinks _ _)
  | down _ _ _ _ _ ih =>
    have hbelow := ih (fun n hn => hnames n (List.mem_cons_of_mem _ hn))
      (fun below target => by rw [List.append_assoc]; exact hlinks _ target) hspot
    rw [hbelow, List.append_assoc]
    rfl

/-! ## Rooted stores -/

/-- Everything stands in a directory. -/
def Rooted (s : FileStore) : Prop :=
  ∀ l name e, s.get? (l ++ [name]) = some e → s.get? l = some .directory

/-- It is enough to look at the entries. -/
theorem rooted_of_entries
    (h : ∀ x ∈ s.entries, s.get? x.1.dropLast = some .directory) : s.Rooted := by
  intro l name e hget
  have habove := h _ (mem_entries_of_get? (by simp) hget)
  rwa [List.dropLast_concat] at habove

/-- Below a free place there is nothing. -/
theorem Rooted.get?_below (hrooted : s.Rooted) :
    ∀ {l : Location} (below : List String), s.get? l = none → s.get? (l ++ below) = none
  | l, [], hfree => by rwa [List.append_nil]
  | l, name :: below, hfree => by
    have hnext : s.get? (l ++ [name]) = none := by
      cases hget : s.get? (l ++ [name]) with
      | none => rfl
      | some e => exact absurd (hrooted l name e hget) (by simp [hfree])
    rw [List.append_cons]
    exact hrooted.get?_below below hnext

end FileStore

end Unbundle
