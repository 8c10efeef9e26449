import Bindery.Proofs.Overlays

/-!
# Bindery — Proofs — Loading

What settings are loaded as.  Three layers give a target its value: the last variable that names it,
or else the file, or else what is standard (`settings_layered`).  Which file that is (`ReadsFrom`)
and what it says (`Says`) is told from what stands at the paths.  Variables without the mark can
only tell where the configuration of the user is, and of those only two do (`ToldByHome`).

The layers are laid as JSON and read back at the end.  Below the overlays stands the file laid over
what is standard (`find?_base`); reading goes through the fields one by one, and each of them sets
the field of its name and no other (`lookup_setNamed`), so what is read has under each name what was
laid there (`lookup_foldlM_setNamed`).
-/

namespace Bindery.Settings

open Json (lookup insertField Ordered keys)

variable {s s' : Settings} {name : String} {v : Json}

/-! ### Reading one field -/

theorem natJson_of_nat? {n : Nat} (h : nat? v = some n) : natJson n = v := by
  unfold nat? at h
  split at h
  next m =>
    split at h
    next hm =>
      cases h
      rw [natJson, Int.toNat_of_nonneg hm]
    next => cases h
  next => cases h

theorem bool_of_bool? {b : Bool} (h : bool? v = some b) : .bool b = v := by
  cases v <;> cases h
  rfl

theorem string_of_string? {t : String} (h : string? v = some t) : .string t = v := by
  cases v <;> cases h
  rfl

theorem map_of_pairs? {fs : List (String × Json)} {ps : List (String × String)}
    (h : pairs? fs = some ps) : ps.map (fun (k, t) => (k, Json.string t)) = fs := by
  induction fs generalizing ps with
  | nil =>
      cases h
      rfl
  | cons f rest ih =>
      obtain ⟨k, w⟩ := f
      obtain ⟨t, ht, h⟩ := Option.bind_eq_some_iff.1 h
      obtain ⟨ps', hps, rfl⟩ := Option.map_eq_some_iff.1 h
      rw [List.map_cons, ih hps, ← string_of_string? ht]

theorem propertiesJson_of_properties? {ps : List (String × String)} (h : properties? v = some ps) :
    propertiesJson ps = v := by
  obtain ⟨fs, hfs, hps⟩ := Option.bind_eq_some_iff.1 h
  rw [propertiesJson, map_of_pairs? hps]
  cases v <;> cases hfs
  rfl

/-- Setting the field at a place puts the value there, under the name of the field, and leaves the
others. -/
theorem fields_setField {n : Nat} (h : s.setField v n = some s') :
    ∃ name, fieldNames[n]? = some name ∧ s'.fields = s.fields.set n (name, v) := by
  unfold setField at h
  split at h
  case h_10 => cases h
  all_goals
    obtain ⟨x, hx, rfl⟩ := Option.map_eq_some_iff.1 h
    refine ⟨_, rfl, ?_⟩
    first
      | rw [← natJson_of_nat? hx]
      | rw [← bool_of_bool? hx]
      | rw [← string_of_string? hx]
      | rw [← propertiesJson_of_properties? hx]
    rfl

theorem keys_fields (s : Settings) : keys s.fields = fieldNames := rfl

theorem nodup_fieldNames : fieldNames.Nodup := by decide +kernel

/-- A field set in its place is found under its name, and the others as before. -/
theorem lookup_set {l : List (String × Json)} {n : Nat} (hname : (keys l)[n]? = some name)
    (hnodup : (keys l).Nodup) (g : String) :
    lookup g (l.set n (name, v)) = if g = name then some v else lookup g l := by
  induction l generalizing n with
  | nil => cases hname
  | cons f rest ih =>
      obtain ⟨k, w⟩ := f
      obtain ⟨hk, hrest⟩ := List.nodup_cons.1 hnodup
      cases n with
      | zero =>
          cases hname
          rw [List.set_cons_zero, lookup, lookup]
          simp only [eq_comm (a := g)]
          split <;> rfl
      | succ n =>
          have hname : (keys rest)[n]? = some name := hname
          rw [List.set_cons_succ, lookup, lookup, ih hname hrest]
          by_cases hg : k = g
          · have hne : g ≠ name := by
              rintro rfl
              exact hk (hg ▸ List.mem_of_getElem? hname)
            rw [if_pos hg, if_pos hg, if_neg hne]
          · rw [if_neg hg, if_neg hg]

/-- Reading a field sets the field of its name and no other. -/
theorem lookup_setNamed (h : s.setNamed name v = some s') {g : String} (hg : g ∈ fieldNames) :
    lookup g s'.fields = if g = name then some v else lookup g s.fields := by
  unfold setNamed at h
  split at h
  next n hn =>
    obtain ⟨name', hname, hfields⟩ := fields_setField h
    obtain ⟨hlt, hfound, -⟩ := List.findIdx?_eq_some_iff_getElem.1 hn
    obtain rfl : name = name' := by
      rw [List.getElem?_eq_getElem hlt, Option.some_inj] at hname
      rw [← hname]
      exact (of_decide_eq_true hfound).symm
    rw [hfields]
    exact lookup_set (keys_fields s ▸ hname) (keys_fields s ▸ nodup_fieldNames) g
  next hn =>
    cases h
    have hne : g ≠ name := by
      rintro rfl
      simpa using List.findIdx?_eq_none_iff.1 hn g hg
    rw [if_neg hne]

/-- What is read has under the name of a field what was there, and what it had before where nothing
was. -/
theorem lookup_foldlM_setNamed {fs : List (String × Json)} (hordered : Ordered fs)
    (h : fs.foldlM (fun s (name, v) => s.setNamed name v) s = some s') {g : String}
    (hg : g ∈ fieldNames) : lookup g s'.fields = (lookup g fs).or (lookup g s.fields) := by
  induction fs generalizing s with
  | nil =>
      cases h
      rfl
  | cons f rest ih =>
      obtain ⟨name, v⟩ := f
      obtain ⟨hfirst, hrest⟩ := Json.ordered_cons.1 hordered
      obtain ⟨s₁, hstep, hrun⟩ := Option.bind_eq_some_iff.1 h
      rw [ih hrest hrun, lookup_setNamed hstep hg, lookup]
      by_cases hname : g = name
      · subst hname
        have hnone : lookup g rest = none :=
          Json.lookup_eq_none fun hmem => lt_irrefl _ (hfirst g hmem)
        rw [if_pos rfl, if_pos rfl, hnone]
        rfl
      · rw [if_neg hname, if_neg (Ne.symm hname)]

/-! ### What is below the overlays -/

/-- Where settings are read from: the file that is asked for, if it is there; where none is asked
for the local one, or else that of the user. -/
inductive ReadsFrom (files : Files) (directory : Option String) :
    Option String → Option String → Prop where
  | asked {p : String} {item : FileItem} (h : files.find p = .ok item) :
      ReadsFrom files directory (some p) (some p)
  | absent {p : String} {f : FileFault} (h : files.find p = .error f) :
      ReadsFrom files directory (some p) none
  | near {item : FileItem} (h : files.find localFile = .ok item) :
      ReadsFrom files directory none (some localFile)
  | user {f : FileFault} {d : String} {item : FileItem} (hlocal : files.find localFile = .error f)
      (hd : directory = some d) (h : files.find (userFile d) = .ok item) :
      ReadsFrom files directory none (some (userFile d))
  | nowhere {f : FileFault} (hlocal : files.find localFile = .error f)
      (h : ∀ d, directory = some d → ∃ g, files.find (userFile d) = .error g) :
      ReadsFrom files directory none none

/-- What the file that settings are read from says: nothing if there is none or if it is blank, and
otherwise the fields of the mapping that its text is in YAML. -/
inductive Says (files : Files) : Option String → List (String × Json) → Prop where
  | nothing : Says files none []
  | blank {p text : String} (hread : files.readText p = .ok text)
      (hblank : Text.blank text = true) : Says files (some p) []
  | mapping {p text : String} {fields : List (String × Json)} (hread : files.readText p = .ok text)
      (hblank : Text.blank text = false) (hyaml : Yaml.read? text = some (.object fields)) :
      Says files (some p) fields

variable {h : Host} {directory path source : Option String}

theorem ReadsFrom.source?_eq (hsource : ReadsFrom h.files directory path source) :
    source? h directory path = source := by
  cases hsource with
  | asked hp => simp [source?, candidate?, hp, Except.toBool]
  | absent hp => simp [source?, candidate?, hp, Except.toBool]
  | near hp => simp [source?, candidate?, hp, Except.toBool]
  | user hlocal hd hp => simp [source?, candidate?, hlocal, hd, hp, Except.toBool]
  | nowhere hlocal hnone =>
      cases directory with
      | none => simp [source?, candidate?, hlocal, Except.toBool]
      | some d =>
          obtain ⟨g, hg⟩ := hnone d rfl
          simp [source?, candidate?, hlocal, hg, Except.toBool]

/-- The layer of the file that settings are read from; where there is none the layer is empty. -/
def fileLayer (h : Host) (directory path : Option String) : Except SettingsFault Json :=
  (source? h directory path).elim (.ok (.object [])) (readLayer h)

theorem fileLayer_of_says {file : List (String × Json)}
    (hsource : ReadsFrom h.files directory path source) (hfile : Says h.files source file) :
    fileLayer h directory path = .ok (.object file) := by
  rw [fileLayer, hsource.source?_eq]
  cases hfile with
  | nothing => rfl
  | blank hread hblank => simp [readLayer, hread, hblank]
  | mapping hread hblank hyaml => simp [readLayer, hread, hblank, hyaml]

/-- The fields that a file says are in order, at every depth. -/
theorem Says.isCanonical {files : Files} {file : List (String × Json)}
    (hfile : Says files source file) : (Json.object file).IsCanonical := by
  have hempty : (Json.object []).IsCanonical := ⟨List.Pairwise.nil, trivial⟩
  cases hfile with
  | nothing => exact hempty
  | blank => exact hempty
  | mapping hread hblank hyaml =>
      obtain ⟨u, -, hu⟩ := Option.map_eq_some_iff.1 hyaml
      exact hu ▸ Json.isCanonical_canonical u

/-- The standard fields in the order of their names. -/
def standardFields : List (String × Json) := Json.canonicalFields [] standard.fields

theorem ordered_standardFields : Ordered standardFields :=
  Json.ordered_canonicalFields [] Json.ordered_nil standard.fields

theorem lookup_standardFields (f : String) :
    lookup f standardFields = lookup f standard.fields := by
  -- no standard value has fields whose order could change
  have hsame : ∀ f ∈ standard.fields, f.2.canonical = f.2 := by
    simp only [fields, List.forall_mem_cons]
    exact ⟨rfl, rfl, rfl, rfl, rfl, rfl, rfl, rfl, rfl, by simp⟩
  rw [standardFields, Json.lookup_canonicalFields nodup_fieldNames,
    Json.map_canonical_lookup hsame]
  exact Option.or_none

/-- Only the properties are an object. -/
theorem scalar_of_lookup {f : String} (hf : f ≠ propertiesField)
    (h : lookup f standard.fields = some v) : v.fields? = none := by
  have hscalar : ∀ x ∈ standard.fields, x.1 ≠ propertiesField → x.2.fields? = none := by
    simp only [fields, List.forall_mem_cons]
    exact ⟨fun _ => rfl, fun _ => rfl, fun _ => rfl, fun _ => rfl, fun _ => rfl, fun _ => rfl,
      fun _ => rfl, fun _ => rfl, fun hne => absurd rfl hne, by simp⟩
  exact hscalar _ (Json.mem_of_lookup h) hf

variable {file : List (String × Json)} {t : Target}

/-- What an object has under a property when another one is laid over it that is empty below. -/
theorem lookup_merge_empty (hv : v.IsCanonical) (p : String) :
    lookup p ((Json.object []).merge v).fieldsOrNone = lookup p v.fieldsOrNone := by
  cases v with
  | object fs =>
      have hmerge : lookup p (Json.mergeFields [] fs) = lookup p fs := by
        rw [Json.lookup_mergeFields hv.1]
        cases lookup p fs <;> rfl
      exact hmerge
  | _ => rfl

/-- Below the overlays a target has what the file gives it, or else what is standard. -/
theorem find?_base (hfile : (Json.object file).IsCanonical) (ht : t.Valid) :
    t.find? (Json.mergeFields standardFields file) =
      (t.find? file).or (t.find? standard.fields) := by
  cases t with
  | field f =>
      show lookup f _ = (lookup f file).or (lookup f standard.fields)
      rw [Json.lookup_mergeFields hfile.1, lookup_standardFields]
      cases lookup f file with
      | none => rfl
      | some u =>
          cases hlower : lookup f standard.fields with
          | none => rfl
          | some l =>
              exact congrArg some
                (Json.merge_of_fields?_eq_none (scalar_of_lookup ht.2 hlower) u)
  | property p =>
      have hstandard : lookup propertiesField standard.fields = some (.object []) := rfl
      simp only [Target.find?]
      rw [Json.lookup_mergeFields hfile.1, lookup_standardFields, hstandard]
      cases hupper : lookup propertiesField file with
      | none => rfl
      | some u =>
          have hmerged := lookup_merge_empty (Json.FieldsCanonical.lookup hfile.2 hupper) p
          exact hmerged.trans Option.or_none.symm

/-! ### What is loaded -/

/-- What is read of fields has under a target what they have, or else what is standard. -/
theorem find?_of_ofJson? {fs : List (String × Json)} (hordered : Ordered fs)
    (h : ofJson? (.object fs) = some s) (ht : t.Valid) :
    t.find? s.fields = (t.find? fs).or (t.find? standard.fields) := by
  cases t with
  | field f => exact lookup_foldlM_setNamed hordered h ht.1
  | property p =>
      have hproperties : propertiesField ∈ fieldNames := by decide +kernel
      simp only [Target.find?]
      rw [lookup_foldlM_setNamed hordered h hproperties]
      cases lookup propertiesField fs with
      | none => rfl
      | some v => exact Option.or_none.symm

/-- The overlays of an environment applied to a file laid over what is standard. -/
def laid (environment : List (String × String)) (file : Json) : Json :=
  (overlays environment).foldl applyOverlay (standard.toJson.merge file)

theorem standard_merge_empty : standard.toJson.merge (.object []) = standard.toJson := rfl

/-- Loading reads the layer of the file and then the settings that all layers are together. -/
theorem load_eq (h : Host) (directory path : Option String) :
    load h directory path = (fileLayer h directory path).bind fun file =>
      (ofJson? (laid h.environment file)).elim
        (.error (.invalid "a field has a value of another kind"))
        fun s => .ok ⟨s, source? h directory path⟩ := by
  have hread (file : Json) : ofJson? ((overlays h.environment).foldl applyOverlay
      (standard.toJson.merge file)) = ofJson? (laid h.environment file) := rfl
  unfold load fileLayer
  cases source? h directory path with
  | none =>
      show _ = (ofJson? (laid h.environment (.object []))).elim _ _
      rw [← hread, standard_merge_empty]
      cases hs : ofJson? ((overlays h.environment).foldl applyOverlay standard.toJson) <;>
        simp [hs, bind, Except.bind, pure, Except.pure, throw, throwThe, MonadExceptOf.throw]
  | some p =>
      show _ = (readLayer h p).bind _
      cases hlayer : readLayer h p with
      | error e => simp [hlayer, bind, Except.bind, Except.map]
      | ok file =>
          cases hs : ofJson? (laid h.environment file) <;>
            simp [hlayer, hread, hs, bind, Except.bind, Except.map, pure, Except.pure, throw,
              throwThe, MonadExceptOf.throw]

/-- Where the file says something, settings are loaded exactly if all layers are settings
together. -/
theorem load_eq_ok_iff (hsource : ReadsFrom h.files directory path source)
    (hfile : Says h.files source file) {loaded : Loaded} :
    load h directory path = .ok loaded ↔ loaded.source = source ∧
      ofJson? (laid h.environment (.object file)) = some loaded.settings := by
  rw [load_eq, fileLayer_of_says hsource hfile, hsource.source?_eq]
  obtain ⟨settings, from?⟩ := loaded
  cases hs : ofJson? (laid h.environment (.object file)) with
  | none => simp [hs, Except.bind]
  | some s => simp [hs, Except.bind, and_comm, eq_comm]

/-- Each target has what is said of it last, or else what the file gives it, or else what is
standard. -/
theorem find?_of_laid {environment : List (String × String)}
    (hfile : (Json.object file).IsCanonical)
    (hread : ofJson? (laid environment (.object file)) = some s) (hmeant : Meant environment)
    (ht : t.Valid) :
    t.find? s.fields = ((lastSaid environment t).map t.value).or
      ((t.find? file).or (t.find? standard.fields)) := by
  obtain ⟨fields', hoverlaid, hordered, hfind⟩ :=
    exists_overlaid hmeant (Json.mergeFields standardFields file)
  have hlaid : laid environment (.object file) = .object fields' := hoverlaid
  rw [hlaid] at hread
  rw [find?_of_ofJson? (hordered ordered_standardFields.mergeFields) hread ht,
    hfind t ht.plain, find?_base hfile ht, Option.or_assoc, Option.or_assoc, Option.or_self]

/-! ### Variables that are no overlays -/

/-- The variables with the mark. -/
def marked (environment : List (String × String)) : List (String × String) :=
  environment.filter fun v => Text.startsWith v.1 overlayMark

/-- Of an environment, settings have the variables with the mark only. -/
theorem laid_eq_of_marked {environment environment' : List (String × String)}
    (h : marked environment' = marked environment) (file : Json) :
    laid environment' file = laid environment file := by
  have hoverlays : overlays environment' = overlays environment := by
    rw [← overlays_filter environment', ← overlays_filter environment]
    exact congrArg overlays h
  rw [laid, hoverlays, laid]

/-- The variables by which the directory of a user's configuration is told. -/
def homeVariables : List String := ["XDG_CONFIG_HOME", "HOME"]

/-- What is documented of where the configuration of a user is: two variables tell it, and no other
one has a part in it. -/
def ToldByHome (directory : List (String × String) → Option String) : Prop :=
  ∀ ⦃environment environment'⦄,
    (∀ name ∈ homeVariables, environment'.lookup name = environment.lookup name) →
      directory environment' = directory environment

/-- Where the same file is asked for, the directory of the user matters only if there is none. -/
theorem ReadsFrom.congr {files : Files} {directory' : Option String}
    (hsource : ReadsFrom files directory path source)
    (h : path = none → directory' = directory) : ReadsFrom files directory' path source := by
  cases path with
  | none => rwa [h rfl]
  | some p =>
      cases hsource with
      | asked hp => exact .asked hp
      | absent hp => exact .absent hp

theorem lookup_propertiesJson (ps : List (String × String)) (p : String) :
    lookup p (propertiesJson ps).fieldsOrNone = (ps.lookup p).map Json.string := by
  show lookup p (ps.map fun (k, v) => (k, .string v)) = _
  induction ps with
  | nil => rfl
  | cons q rest ih =>
      obtain ⟨k, v⟩ := q
      rw [List.map_cons, lookup, List.lookup_cons, ih]
      by_cases hk : k = p
      · subst hk
        simp
      · have hbeq : (p == k) = false := beq_false_of_ne (Ne.symm hk)
        rw [if_neg hk, hbeq]

/-- **Settings come in three layers.**  Where every variable with the mark names a field other than
the properties, in letters of either case, or a property, and the file is a mapping or blank or not
there, settings that are loaded have under each field the value that the last variable writes that
names it, or else the value that the file says, or else the standard one; and under each property
the text of the last variable that names it, or else the value that the file says, or else nothing.

Variables without the mark change nothing: wherever the file says the same and the variables with
the mark are the same, the same settings are loaded.  Which file is read they do not change either,
except for the two by which the configuration of a user is told, where no file is asked for. -/
theorem settings_layered {directory : List (String × String) → Option String}
    (hdirectory : ToldByHome directory) {loaded : Loaded}
    (hload : load h (directory h.environment) path = .ok loaded)
    (hsource : ReadsFrom h.files (directory h.environment) path source)
    (hfile : Says h.files source file) (hmeant : Meant h.environment) :
    loaded.source = source ∧
      (∀ f ∈ fieldNames, f ≠ propertiesField → lookup f loaded.settings.fields =
        ((lastSaid h.environment (.field f)).map parseValue).or
          ((lookup f file).or (lookup f standard.fields))) ∧
      (∀ p, (loaded.settings.properties.lookup p).map Json.string =
        ((lastSaid h.environment (.property p)).map Json.string).or
          (Target.find? file (.property p))) ∧
      (∀ (h' : Host) (path' source' : Option String),
        marked h'.environment = marked h.environment →
          ReadsFrom h'.files (directory h'.environment) path' source' →
            Says h'.files source' file →
              load h' (directory h'.environment) path' = .ok ⟨loaded.settings, source'⟩) ∧
      ∀ environment, marked environment = marked h.environment →
        (path = none →
          ∀ name ∈ homeVariables, environment.lookup name = h.environment.lookup name) →
          load { h with environment } (directory environment) path = .ok loaded := by
  obtain ⟨hfrom, hread⟩ := (load_eq_ok_iff hsource hfile).1 hload
  have hsame {h' : Host} {path' source' : Option String}
      (hmarked : marked h'.environment = marked h.environment)
      (hsource' : ReadsFrom h'.files (directory h'.environment) path' source')
      (hfile' : Says h'.files source' file) :
      load h' (directory h'.environment) path' = .ok ⟨loaded.settings, source'⟩ := by
    refine (load_eq_ok_iff hsource' hfile').2 ⟨rfl, ?_⟩
    rw [laid_eq_of_marked hmarked]
    exact hread
  refine ⟨hfrom, fun f hf hne => ?_, fun p => ?_, fun h' path' source' => hsame,
    fun environment hmarked hhome => ?_⟩
  · have ht : (Target.field f).Valid := ⟨hf, hne⟩
    exact find?_of_laid hfile.isCanonical hread hmeant ht
  · have ht : (Target.property p).Valid := trivial
    have hfind := find?_of_laid hfile.isCanonical hread hmeant ht
    have hsettings : Target.find? loaded.settings.fields (.property p) =
        lookup p (propertiesJson loaded.settings.properties).fieldsOrNone := rfl
    have hstandard : Target.find? standard.fields (.property p) = none := rfl
    rw [hsettings, lookup_propertiesJson, hstandard, Option.or_none] at hfind
    exact hfind
  · have hsource' : ReadsFrom h.files (directory environment) path source :=
      hsource.congr fun hnone => hdirectory (hhome hnone)
    have hagain := @hsame { h with environment } path source hmarked hsource' hfile
    rw [hagain, ← hfrom]

/-- The directory of a user's configuration as the variables tell it: an absolute path of its own,
or else a directory in the user's home. -/
def homeDirectory (environment : List (String × String)) : Option String :=
  ((environment.lookup "XDG_CONFIG_HOME").filter fun p => Text.startsWith p "/").or
    ((environment.lookup "HOME").map fun home => home ++ "/.config")

theorem toldByHome_homeDirectory : ToldByHome homeDirectory := by
  intro environment environment' h
  have hown := h "XDG_CONFIG_HOME" (by decide)
  have hhome := h "HOME" (by decide)
  rw [homeDirectory, hown, hhome, homeDirectory]

/-- The text of a file of settings. -/
def configuredText : String :=
  "throttle_ms: 5\nhighlight_ms: 300\nproperties:\n  user: ada\n  motto: festina lente\n"

/-- A host with a file of settings and some variables: a field in letters of either case, the same
field without the mark, a property, and the home of the user. -/
def configured : Host where
  files := [(["config"], .directory),
    (["config", "webbind.yaml"], .file (Text.Utf8.encode configuredText))]
  environment := [("WEBBIND__Throttle_MS", "7"), ("THROTTLE_MS", "8"),
    ("WEBBIND__PROPERTIES__user", "12"), ("HOME", "/home/ada")]

/-- The file of that host is the local one. -/
theorem readsFrom_configured :
    ReadsFrom configured.files (homeDirectory configured.environment) none (some localFile) := by
  have hthere : configured.files.find localFile =
      .ok (.file (Text.Utf8.encode configuredText)) := by decide +kernel
  exact .near hthere

/-- What the file of that host says. -/
theorem exists_says_configured : ∃ file, Says configured.files (some localFile) file ∧
    lookup "highlight_ms" file = some (natJson 300) ∧ lookup "max_binding_depth" file = none ∧
    Target.find? file (.property "motto") = some (.string "festina lente") := by
  have hread : configured.files.readText localFile = .ok configuredText := by decide +kernel
  have hblank : Text.blank configuredText = false := by decide +kernel
  have hsaid : (((Yaml.read? configuredText).bind Json.fields?).map fun file =>
      ((lookup "highlight_ms" file).bind nat?, (lookup "max_binding_depth" file).isNone,
        (Target.find? file (.property "motto")).bind string?)) =
      some (some 300, true, some "festina lente") := by decide +kernel
  obtain ⟨file, hfile, hsaid⟩ := Option.map_eq_some_iff.1 hsaid
  obtain ⟨v, hyaml, hv⟩ := Option.bind_eq_some_iff.1 hfile
  obtain rfl : v = .object file := by
    cases v <;> cases hv
    rfl
  rw [Prod.mk.injEq, Prod.mk.injEq] at hsaid
  obtain ⟨hhighlight, hdepth, hmotto⟩ := hsaid
  obtain ⟨n, hn, hnat⟩ := Option.bind_eq_some_iff.1 hhighlight
  obtain ⟨w, hw, hstring⟩ := Option.bind_eq_some_iff.1 hmotto
  refine ⟨file, .mapping hread hblank hyaml, ?_, Option.isNone_iff_eq_none.1 hdepth, ?_⟩
  · rw [hn, natJson_of_nat? hnat]
  · rw [hw, string_of_string? hstring]

/-- The variables of that host say what they mean. -/
theorem meant_configured : Meant configured.environment := by
  have hthrottle : "throttle_ms" ∈ fieldNames ∧ "throttle_ms" ≠ propertiesField := by
    decide +kernel
  have hfield : (Target.field "throttle_ms").isNamedBy (overlayMark ++ "Throttle_MS") = true :=
    isNamedBy_field hthrottle.1 (by decide +kernel)
  have hproperty : (Target.property "user").isNamedBy
      (overlayMark ++ ("PROPERTIES" ++ String.ofList partMark ++ "user")) = true :=
    isNamedBy_property (by decide +kernel) (by decide) (by decide +kernel)
  have hunmarked : ∀ name ∈ ["THROTTLE_MS", "HOME"], Text.startsWith name overlayMark = false := by
    decide +kernel
  have hnothing {v : String × String} (hv : v.1 ∈ ["THROTTLE_MS", "HOME"])
      (h : Text.startsWith v.1 overlayMark = true) :
      ∃ t : Target, t.Valid ∧ t.isNamedBy v.1 = true := by
    rw [hunmarked _ hv] at h
    cases h
  exact List.forall_mem_cons.2 ⟨fun _ => ⟨.field _, hthrottle, hfield⟩,
    List.forall_mem_cons.2 ⟨hnothing (by simp),
      List.forall_mem_cons.2 ⟨fun _ => ⟨.property _, trivial, hproperty⟩,
        List.forall_mem_singleton.2 (hnothing (by simp))⟩⟩⟩

/-- A field and a property are overlaid, a field and a property are those of the file, and a field
is standard. -/
theorem settings_layered_configured :
    ToldByHome homeDirectory ∧
      ReadsFrom configured.files (homeDirectory configured.environment) none (some localFile) ∧
      (∃ file, Says configured.files (some localFile) file) ∧ Meant configured.environment ∧
      ∃ loaded, load configured (homeDirectory configured.environment) none = .ok loaded ∧
        loaded.source = some localFile ∧
        lookup "throttle_ms" loaded.settings.fields = some (natJson 7) ∧
        lookup "highlight_ms" loaded.settings.fields = some (natJson 300) ∧
        lookup "max_binding_depth" loaded.settings.fields = some (natJson 16) ∧
        (loaded.settings.properties.lookup "user").map Json.string = some (.string "12") ∧
        (loaded.settings.properties.lookup "motto").map Json.string =
          some (.string "festina lente") := by
  have hload : (load configured (homeDirectory configured.environment) none).toBool = true := by
    decide +kernel
  have hsaid : lastSaid configured.environment (.field "throttle_ms") = some "7" ∧
      lastSaid configured.environment (.field "highlight_ms") = none ∧
      lastSaid configured.environment (.field "max_binding_depth") = none ∧
      lastSaid configured.environment (.property "user") = some "12" ∧
      lastSaid configured.environment (.property "motto") = none := by decide +kernel
  have hseven : nat? (parseValue "7") = some 7 := by decide +kernel
  obtain ⟨hthrottle, hhighlight, hdepth, huser, hmotto⟩ := hsaid
  obtain ⟨file, hfile, hfileHighlight, hfileDepth, hfileMotto⟩ := exists_says_configured
  refine ⟨toldByHome_homeDirectory, readsFrom_configured, ⟨file, hfile⟩, meant_configured, ?_⟩
  cases hload' : load configured (homeDirectory configured.environment) none with
  | error e =>
      rw [hload'] at hload
      cases hload
  | ok loaded =>
      obtain ⟨hfrom, hfields, hproperties, -⟩ := settings_layered toldByHome_homeDirectory hload'
        readsFrom_configured hfile meant_configured
      refine ⟨loaded, rfl, hfrom, ?_, ?_, ?_, ?_, ?_⟩
      · rw [hfields _ (by decide +kernel) (by decide), hthrottle, natJson_of_nat? hseven]
        rfl
      · rw [hfields _ (by decide +kernel) (by decide), hhighlight, hfileHighlight]
        rfl
      · rw [hfields _ (by decide +kernel) (by decide), hdepth, hfileDepth]
        rfl
      · rw [hproperties, huser]
        rfl
      · rw [hproperties, hmotto, hfileMotto]
        rfl

end Bindery.Settings
