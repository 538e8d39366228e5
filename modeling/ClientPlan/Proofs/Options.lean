import ClientPlan.Options.Reading
import ClientPlan.Proofs.Name.OperationId
import ClientPlan.Proofs.OrderedMap
import ClientPlan.Proofs.Overwriting

/-! # Options in layers

Pairs override the options they are applied to. Each flag is decided by the last pair under one of
its names, and each other key by its own last pair, so that the order of pairs counts only within a
flag or a key.
-/

namespace ClientPlan

/-! ## Values of flags -/

namespace Text

/-- A text is the word `true`, in any case and with any blanks around. -/
def SaysTrue (text : List Char) : Prop :=
  ∃ before word after, text = before ++ word ++ after ∧ (∀ c ∈ before, isBlank c = true) ∧
    (∀ c ∈ after, isBlank c = true) ∧ word.map Char.toLower = "true".toList

theorem toLower_of_not_ascii {c : Char} (hc : ¬ c.toNat < 128) : c.toLower = c := by
  refine dif_neg ?_
  rintro ⟨-, hle⟩
  have hval : c.toNat = c.val.toNat := rfl
  have hbound : c.val.toNat ≤ 90 := UInt32.le_iff_toNat_le.mp hle
  omega

theorem isAsciiAlnum_of_toLower {c : Char} (hc : isAsciiAlnum c.toLower = true) :
    isAsciiAlnum c = true := by
  by_cases hascii : c.toNat < 128
  · have hall : ∀ n < 128, isAsciiAlnum (Char.ofNat n).toLower = true →
        isAsciiAlnum (Char.ofNat n) = true := by
      decide +kernel
    exact forall_ascii (p := fun c => isAsciiAlnum c.toLower = true → isAsciiAlnum c = true) hall
      hascii hc
  · rwa [toLower_of_not_ascii hascii] at hc

theorem lowerAscii_eq (c : Char) :
    (if c.toNat < 128 then lowerChar c else [c]) = [c.toLower] := by
  split
  next hascii =>
    have hall : ∀ n < 128, lowerChar (Char.ofNat n) = [(Char.ofNat n).toLower] := by
      decide +kernel
    exact forall_ascii (p := fun c => lowerChar c = [c.toLower]) hall hascii
  next hascii => rw [toLower_of_not_ascii hascii]

/-- Blanks around a word are trimmed off. -/
theorem trim_of_blanks {before word after : List Char} (hbefore : ∀ c ∈ before, isBlank c = true)
    (hafter : ∀ c ∈ after, isBlank c = true) (hword : Name.IsWord word) (hne : word ≠ []) :
    trim (before ++ word ++ after) = word := by
  have hplain : ∀ c, isAsciiAlnum c = true → isBlank c = false := fun _ hc =>
    (isPlain_of_isAsciiAlnum hc).isBlank
  have hstart : trimStart (before ++ word ++ after) = word ++ after := by
    rw [trimStart, List.append_assoc, List.dropWhile_append_of_pos hbefore]
    cases word with
    | nil => exact absurd rfl hne
    | cons c rest =>
        have hc := hplain c (Name.isWord_cons.mp hword).1
        rw [List.cons_append, List.dropWhile_cons_of_neg (by simp [hc])]
  have hafter' : ∀ c ∈ after.reverse, isBlank c = true := fun c hc =>
    hafter c (List.mem_reverse.mp hc)
  have hword' : Name.IsWord word.reverse := fun c hc => hword c (List.mem_reverse.mp hc)
  rw [trim, hstart, trimEnd, List.reverse_append, List.dropWhile_append_of_pos hafter',
    Name.dropWhile_of_isWord hplain hword', List.reverse_reverse]

/-- What is trimmed off a text are blanks. -/
theorem exists_blanks_trim (text : List Char) :
    ∃ before after, text = before ++ trim text ++ after ∧ (∀ c ∈ before, isBlank c = true) ∧
      ∀ c ∈ after, isBlank c = true := by
  refine ⟨text.takeWhile isBlank, ((trimStart text).reverse.takeWhile isBlank).reverse, ?_, ?_, ?_⟩
  · have hend : trim text ++ ((trimStart text).reverse.takeWhile isBlank).reverse =
        trimStart text := by
      rw [trim, trimEnd, ← List.reverse_append, List.takeWhile_append_dropWhile,
        List.reverse_reverse]
    rw [List.append_assoc, hend, trimStart, List.takeWhile_append_dropWhile]
  · exact fun c hc => List.mem_takeWhile_imp hc
  · exact fun c hc => List.mem_takeWhile_imp (List.mem_reverse.mp hc)

end Text

namespace Options

open Text

theorem flagValue_eq_true_iff {value : String} :
    flagValue value = true ↔ SaysTrue value.toList := by
  have hmap : flagValue value = true ↔
      (trim value.toList).map Char.toLower = "true".toList := by
    rw [flagValue, beq_iff_eq]
    simp only [lowerAscii_eq, List.map_eq_flatMap]
  rw [hmap]
  constructor
  · intro htrue
    obtain ⟨before, after, heq, hbefore, hafter⟩ := exists_blanks_trim value.toList
    exact ⟨before, _, after, heq, hbefore, hafter, htrue⟩
  · rintro ⟨before, word, after, heq, hbefore, hafter, htrue⟩
    have hletters : ∀ c ∈ word, isAsciiAlnum c = true := by
      intro c hc
      have hmem : c.toLower ∈ "true".toList := htrue ▸ List.mem_map_of_mem hc
      have hall : Name.IsWord "true".toList := by decide
      exact isAsciiAlnum_of_toLower (hall _ hmem)
    have hne : word ≠ [] := by
      rintro rfl
      cases htrue
    rw [heq, trim_of_blanks hbefore hafter hletters hne, htrue]

end Options

/-! ## Names of flags -/

theorem Flag.named?_eq_some_iff {key : String} {flag : Flag} :
    Flag.named? key = some flag ↔ key ∈ flag.names := by
  constructor
  · intro hnamed
    simpa using List.find?_some hnamed
  · cases flag <;> simp only [Flag.names, List.mem_cons, List.not_mem_nil, or_false] <;>
      rintro (rfl | rfl) <;> decide

theorem Flag.named?_eq_none_iff {key : String} :
    Flag.named? key = none ↔ ∀ flag : Flag, key ∉ flag.names := by
  simp only [Option.eq_none_iff_forall_ne_some, ne_eq, Flag.named?_eq_some_iff]

namespace Options

/-! ## Flags -/

section

variable (options : Options)

theorem get_set (flag other : Flag) (value : Bool) :
    (options.set flag value).get other = if flag = other then value else options.get other := by
  cases flag <;> cases other <;> rfl

theorem additionalProperties_set (flag : Flag) (value : Bool) :
    (options.set flag value).additionalProperties = options.additionalProperties := by
  cases flag <;> rfl

theorem ext_get {options other : Options} (hflags : ∀ flag, options.get flag = other.get flag)
    (hothers : options.additionalProperties = other.additionalProperties) : options = other := by
  obtain ⟨_, _, _, _, _, _⟩ := options
  obtain ⟨_, _, _, _, _, _⟩ := other
  obtain rfl : _ = _ := hflags .useReactiveResource
  obtain rfl : _ = _ := hflags .useInjectedDependency
  obtain rfl : _ = _ := hflags .splitResourceArtifacts
  obtain rfl : _ = _ := hflags .readonlyOutputModels
  obtain rfl : _ = _ := hflags .strictPathParameters
  obtain rfl : _ = _ := hothers
  rfl

theorem get_apply (property : String × String) (flag : Flag) :
    (options.apply property).get flag =
      if property.1 ∈ flag.names then flagValue property.2 else options.get flag := by
  rw [apply]
  cases hnamed : Flag.named? property.1 with
  | none => rw [if_neg (Flag.named?_eq_none_iff.mp hnamed flag)]; cases flag <;> rfl
  | some named =>
      simp only [get_set, ← Flag.named?_eq_some_iff, hnamed, Option.some.injEq]

theorem additionalProperties_apply (property : String × String) :
    (options.apply property).additionalProperties =
      if Flag.named? property.1 = none then
        insertSorted property.1 property.2 options.additionalProperties
      else options.additionalProperties := by
  rw [apply]
  cases Flag.named? property.1 with
  | none => rfl
  | some flag => exact additionalProperties_set options flag _

end

/-! ## Sorted entries -/

section

variable {key other value old : String} {entries : List (String × String)}

theorem find?_insertSorted (key other value : String) (entries : List (String × String)) :
    OrderedMap.find? (insertSorted key value entries) other =
      if key = other then some value else OrderedMap.find? entries other := by
  induction entries with
  | nil => rfl
  | cons entry rest ih =>
      obtain ⟨k, v⟩ := entry
      rw [insertSorted]
      split
      next heq =>
        subst heq
        simp only [OrderedMap.find?]
        split <;> rfl
      next hne =>
        split
        next => rfl
        next =>
          rw [OrderedMap.find?, ih, OrderedMap.find?]
          by_cases hk : k = other
          · subst hk
            simp [hne]
          · simp [hk]

/-- The second of two values of a key wins. -/
theorem insertSorted_again (key value old : String) (entries : List (String × String)) :
    insertSorted key value (insertSorted key old entries) = insertSorted key value entries := by
  induction entries with
  | nil => simp [insertSorted]
  | cons entry rest ih =>
      obtain ⟨k, v⟩ := entry
      by_cases heq : key = k
      · simp [insertSorted, heq]
      · by_cases hlt : key < k <;> simp [insertSorted, heq, hlt, ih]

theorem insertSorted_of_lt {k : String} (hlt : key < k) (value v : String)
    (rest : List (String × String)) :
    insertSorted key value ((k, v) :: rest) = (key, value) :: (k, v) :: rest := by
  rw [insertSorted, if_neg (String.ne_of_lt hlt), if_pos hlt]

theorem insertSorted_of_gt {k : String} (hlt : k < key) (value v : String)
    (rest : List (String × String)) :
    insertSorted key value ((k, v) :: rest) = (k, v) :: insertSorted key value rest := by
  rw [insertSorted, if_neg (String.ne_of_lt hlt).symm, if_neg (String.lt_asymm hlt)]

theorem insertSorted_comm_of_lt (hlt : key < other) (entries : List (String × String)) :
    insertSorted key value (insertSorted other old entries) =
      insertSorted other old (insertSorted key value entries) := by
  induction entries with
  | nil => rw [insertSorted, insertSorted_of_lt hlt, insertSorted, insertSorted_of_gt hlt]; rfl
  | cons entry rest ih =>
      obtain ⟨k, v⟩ := entry
      rcases Std.lt_trichotomy key k with hkey | rfl | hkey
      · -- The smaller key comes to stand first, before or behind whatever the other one does.
        rw [insertSorted_of_lt hkey, insertSorted_of_gt hlt]
        rcases Std.lt_trichotomy other k with hother | rfl | hother
        · rw [insertSorted_of_lt hother, insertSorted_of_lt hlt]
        · rw [insertSorted, if_pos rfl, insertSorted_of_lt hlt]
        · rw [insertSorted_of_gt hother, insertSorted_of_lt hkey]
      · rw [insertSorted_of_gt hlt, insertSorted, if_pos rfl, insertSorted, if_pos rfl,
          insertSorted_of_gt hlt]
      · rw [insertSorted_of_gt hkey, insertSorted_of_gt (String.lt_trans hkey hlt),
          insertSorted_of_gt hkey, insertSorted_of_gt (String.lt_trans hkey hlt), ih]

/-- Two keys can be set in either order. -/
theorem insertSorted_comm (hne : key ≠ other) (entries : List (String × String)) :
    insertSorted key value (insertSorted other old entries) =
      insertSorted other old (insertSorted key value entries) := by
  rcases Std.lt_trichotomy key other with hlt | heq | hlt
  · exact insertSorted_comm_of_lt hlt entries
  · exact absurd heq hne
  · exact (insertSorted_comm_of_lt hlt entries).symm

theorem mem_of_mem_insertSorted {entry : String × String}
    (hentry : entry ∈ insertSorted key value entries) : entry = (key, value) ∨ entry ∈ entries := by
  induction entries with
  | nil => exact .inl (List.mem_singleton.mp hentry)
  | cons first rest ih =>
      rw [insertSorted] at hentry
      split at hentry
      next => exact (List.mem_cons.mp hentry).imp_right (List.mem_cons_of_mem _)
      next =>
        split at hentry
        next => exact List.mem_cons.mp hentry
        next =>
          rcases List.mem_cons.mp hentry with rfl | hrest
          · exact .inr List.mem_cons_self
          · exact (ih hrest).imp_right (List.mem_cons_of_mem _)

/-- Keys come in increasing order, so each of them once. -/
def Ordered (entries : List (String × String)) : Prop :=
  entries.Pairwise fun first second => first.1 < second.1

theorem Ordered.insertSorted (hordered : Ordered entries) (key value : String) :
    Ordered (insertSorted key value entries) := by
  induction entries with
  | nil => exact List.pairwise_singleton _ _
  | cons first rest ih =>
      obtain ⟨k, v⟩ := first
      obtain ⟨hfirst, hrest⟩ := List.pairwise_cons.mp hordered
      rcases Std.lt_trichotomy key k with hkey | rfl | hkey
      · rw [insertSorted_of_lt hkey]
        refine List.pairwise_cons.mpr ⟨?_, hordered⟩
        intro entry hentry
        rcases List.mem_cons.mp hentry with rfl | hentry
        · exact hkey
        · exact String.lt_trans hkey (hfirst entry hentry)
      · rw [Options.insertSorted, if_pos rfl]
        exact List.pairwise_cons.mpr ⟨hfirst, hrest⟩
      · rw [insertSorted_of_gt hkey]
        refine List.pairwise_cons.mpr ⟨?_, ih hrest⟩
        intro entry hentry
        rcases mem_of_mem_insertSorted hentry with rfl | hentry
        · exact hkey
        · exact hfirst entry hentry

end

/-! ## The last of some pairs -/

/-- The value of the last pair under one of some names. -/
def lastValue? (names : List String) (properties : List (String × String)) : Option String :=
  (properties.filter fun property => property.1 ∈ names).getLast?.map Prod.snd

section

variable (names : List String)

theorem lastValue?_append (first second : List (String × String)) :
    lastValue? names (first ++ second) =
      (lastValue? names second).or (lastValue? names first) := by
  rw [lastValue?, List.filter_append, List.getLast?_append, Option.map_or]
  rfl

theorem lastValue?_singleton (property : String × String) :
    lastValue? names [property] = if property.1 ∈ names then some property.2 else none := by
  by_cases hname : property.1 ∈ names <;> simp [lastValue?, hname]

theorem lastValue?_concat (properties : List (String × String)) (property : String × String) :
    lastValue? names (properties ++ [property]) =
      if property.1 ∈ names then some property.2 else lastValue? names properties := by
  rw [lastValue?_append, lastValue?_singleton]
  split <;> rfl

/-- What is between other pairs counts by its last value alone. -/
theorem lastValue?_between {first second : List (String × String)}
    (hsame : lastValue? names first = lastValue? names second)
    (before after : List (String × String)) :
    lastValue? names (before ++ (first ++ after)) =
      lastValue? names (before ++ (second ++ after)) := by
  simp only [lastValue?_append, hsame]

theorem lastValue?_swap {first second : String × String}
    (hapart : ¬ (first.1 ∈ names ∧ second.1 ∈ names)) (before after : List (String × String)) :
    lastValue? names (before ++ second :: first :: after) =
      lastValue? names (before ++ first :: second :: after) := by
  have hpair : lastValue? names [second, first] = lastValue? names [first, second] := by
    by_cases hfirst : first.1 ∈ names <;> by_cases hsecond : second.1 ∈ names <;>
      simp_all [lastValue?]
  exact lastValue?_between names hpair before after

theorem lastValue?_rename {key other : String} (hnames : key ∈ names ↔ other ∈ names)
    (value : String) (before after : List (String × String)) :
    lastValue? names (before ++ (other, value) :: after) =
      lastValue? names (before ++ (key, value) :: after) := by
  have hpair : lastValue? names [(other, value)] = lastValue? names [(key, value)] := by
    simp only [lastValue?_singleton, hnames]
  exact lastValue?_between names hpair before after

end

theorem lastOf?_fst_eq (key : String) (properties : List (String × String)) :
    lastOf? Prod.fst key properties =
      (lastValue? [key] properties).map fun value => (key, value) := by
  induction properties using List.reverseRecOn with
  | nil => rfl
  | append_singleton properties property ih =>
      rw [lastOf?_concat, lastValue?_concat, ih]
      by_cases hkey : property.1 = key
      · simp [← hkey]
      · simp [hkey]

/-! ## Runs of pairs -/

section

variable (options : Options) (properties : List (String × String))

theorem applyAll_concat (property : String × String) :
    options.applyAll (properties ++ [property]) = (options.applyAll properties).apply property :=
  List.foldl_concat ..

theorem get_applyAll (flag : Flag) :
    (options.applyAll properties).get flag =
      ((lastValue? flag.names properties).map flagValue).getD (options.get flag) := by
  induction properties using List.reverseRecOn with
  | nil => rfl
  | append_singleton properties property ih =>
      rw [applyAll_concat, get_apply, lastValue?_concat, ih]
      split <;> rfl

theorem find?_applyAll (key : String) :
    OrderedMap.find? (options.applyAll properties).additionalProperties key =
      (if Flag.named? key = none then lastValue? [key] properties else none).or
        (OrderedMap.find? options.additionalProperties key) := by
  induction properties using List.reverseRecOn with
  | nil => simp [applyAll, lastValue?]
  | append_singleton properties property ih =>
      rw [applyAll_concat, additionalProperties_apply, lastValue?_concat]
      by_cases hkey : property.1 = key
      · subst hkey
        by_cases hnamed : Flag.named? property.1 = none <;>
          simp [hnamed, ih, find?_insertSorted]
      · by_cases hnamed : Flag.named? property.1 = none <;>
          simp [hnamed, ih, find?_insertSorted, hkey]

theorem ordered_applyAll (hordered : Ordered options.additionalProperties) :
    Ordered (options.applyAll properties).additionalProperties := by
  induction properties using List.reverseRecOn with
  | nil => exact hordered
  | append_singleton properties property ih =>
      rw [applyAll_concat, additionalProperties_apply]
      split
      next => exact ih.insertSorted _ _
      next => exact ih

theorem additionalProperties_applyAll :
    (options.applyAll properties).additionalProperties =
      (properties.filter fun property => Flag.named? property.1 = none).foldl
        (fun entries property => insertSorted property.1 property.2 entries)
        options.additionalProperties := by
  induction properties using List.reverseRecOn with
  | nil => rfl
  | append_singleton properties property ih =>
      rw [applyAll_concat, additionalProperties_apply, ih, List.filter_append, List.foldl_append]
      by_cases hnamed : Flag.named? property.1 = none <;> simp [hnamed]

end

/-- Two runs of pairs end on the same value for each flag and for each other key. -/
structure SameEnds (first second : List (String × String)) : Prop where
  flags : ∀ flag : Flag, lastValue? flag.names first = lastValue? flag.names second
  others : ∀ key, (∀ flag : Flag, key ∉ flag.names) →
    lastValue? [key] first = lastValue? [key] second

theorem lastOf?_unnamed (key : String) (properties : List (String × String)) :
    lastOf? Prod.fst key (properties.filter fun property => Flag.named? property.1 = none) =
      if Flag.named? key = none then lastOf? Prod.fst key properties else none := by
  rw [lastOf?, List.filter_filter]
  split
  next hnamed =>
    rw [lastOf?]
    congr 1
    refine List.filter_congr fun property _ => ?_
    by_cases hkey : property.1 = key <;> simp [hkey, hnamed]
  next hnamed =>
    rw [List.getLast?_eq_none_iff, List.filter_eq_nil_iff]
    intro property _
    by_cases hkey : property.1 = key <;> simp [hkey, hnamed]

/-- What pairs make of options depends on the last value of each flag and key alone. -/
theorem applyAll_congr {first second : List (String × String)} (hends : SameEnds first second)
    (options : Options) : options.applyAll first = options.applyAll second := by
  refine ext_get (fun flag => ?_) ?_
  · rw [get_applyAll, get_applyAll, hends.flags]
  · have hlast : ∀ key,
        lastOf? Prod.fst key (first.filter fun property => Flag.named? property.1 = none) =
          lastOf? Prod.fst key (second.filter fun property => Flag.named? property.1 = none) := by
      intro key
      rw [lastOf?_unnamed, lastOf?_unnamed]
      split
      next hnamed =>
        rw [lastOf?_fst_eq, lastOf?_fst_eq, hends.others key (Flag.named?_eq_none_iff.mp hnamed)]
      next => rfl
    rw [additionalProperties_applyAll, additionalProperties_applyAll]
    refine foldl_congr_lastOf? ?_ ?_ hlast _
    · rintro entries ⟨key, old⟩ ⟨_, value⟩ rfl
      exact insertSorted_again key value old entries
    · rintro entries first second hne
      exact insertSorted_comm hne.symm entries

/-! ## Orders and names that do not count -/

section

variable {key other : String} {first second : String × String}

theorem sameEnds_swap (hkeys : first.1 ≠ second.1)
    (hflags : ∀ flag : Flag, ¬ (first.1 ∈ flag.names ∧ second.1 ∈ flag.names))
    (before after : List (String × String)) :
    SameEnds (before ++ second :: first :: after) (before ++ first :: second :: after) where
  flags flag := lastValue?_swap flag.names (hflags flag) before after
  others key _ := by
    refine lastValue?_swap [key] ?_ before after
    rintro ⟨hfirst, hsecond⟩
    exact hkeys ((List.mem_singleton.mp hfirst).trans (List.mem_singleton.mp hsecond).symm)

theorem sameEnds_rename {flag : Flag} (hkey : key ∈ flag.names) (hother : other ∈ flag.names)
    (value : String) (before after : List (String × String)) :
    SameEnds (before ++ (other, value) :: after) (before ++ (key, value) :: after) where
  flags named := by
    refine lastValue?_rename named.names ?_ value before after
    -- A name belongs to one flag only.
    rw [← Flag.named?_eq_some_iff, ← Flag.named?_eq_some_iff, Flag.named?_eq_some_iff.mpr hkey,
      Flag.named?_eq_some_iff.mpr hother]
  others name hname := by
    refine lastValue?_rename [name] ?_ value before after
    rw [List.mem_singleton, List.mem_singleton]
    refine iff_of_false ?_ ?_
    · rintro rfl
      exact hname flag hkey
    · rintro rfl
      exact hname flag hother

end

/-! ## Loaded options -/

theorem additionalProperties_of_readFlag {entries : Toml.Entries} {options read : Options}
    {flag : Flag} (hread : readFlag entries options flag = .ok read) :
    read.additionalProperties = options.additionalProperties := by
  rw [readFlag] at hread
  split at hread
  next => rw [← Except.ok.inj hread]
  next => rw [← Except.ok.inj hread, additionalProperties_set]
  next => cases hread

theorem additionalProperties_of_foldlM {entries : Toml.Entries} {flags : List Flag}
    {options read : Options} (hread : flags.foldlM (readFlag entries) options = .ok read) :
    read.additionalProperties = options.additionalProperties := by
  induction flags generalizing options with
  | nil => rw [← Except.ok.inj hread]
  | cons flag rest ih =>
      rw [List.foldlM_cons] at hread
      cases hfirst : readFlag entries options flag with
      | error error =>
          rw [hfirst] at hread
          cases hread
      | ok next =>
          rw [hfirst] at hread
          exact (ih hread).trans (additionalProperties_of_readFlag hfirst)

theorem additionalProperties_of_readFlags {options read : Options} {flags : List Flag}
    {values : List Toml.Value} (hread : readFlags options flags values = .ok read) :
    read.additionalProperties = options.additionalProperties := by
  fun_induction readFlags options flags values with
  | case1 => rw [← Except.ok.inj hread]
  | case2 options flag flags value values ih =>
      exact (ih hread).trans (additionalProperties_set options flag value)
  | case3 => cases hread

/-- Options that are loaded hold flags alone. -/
theorem additionalProperties_of_ofToml {text : String} {options : Options}
    (hload : ofToml text = .ok options) : options.additionalProperties = [] := by
  rw [ofToml] at hload
  split at hload
  next => cases hload
  next entries _ =>
    unfold ofValue at hload
    split at hload
    next => exact additionalProperties_of_foldlM hload
    next => exact additionalProperties_of_readFlags hload
    next => cases hload

/-! ## Layers -/

/-- Options that pairs make of others: the pairs decide, and where there are none, what was there
before them. -/
structure Layered (before : Options) (properties : List (String × String)) (after : Options) :
    Prop where
  flag : ∀ flag, after.get flag =
    ((lastValue? flag.names properties).map flagValue).getD (before.get flag)
  other : ∀ key, (∀ flag : Flag, key ∉ flag.names) →
    OrderedMap.find? after.additionalProperties key =
      (lastValue? [key] properties).or (OrderedMap.find? before.additionalProperties key)
  named : ∀ key, ∀ flag : Flag, key ∈ flag.names →
    OrderedMap.find? after.additionalProperties key =
      OrderedMap.find? before.additionalProperties key
  ordered : Ordered before.additionalProperties → Ordered after.additionalProperties

theorem layered_applyAll (options : Options) (properties : List (String × String)) :
    Layered options properties (options.applyAll properties) where
  flag flag := get_applyAll options properties flag
  other key hkey := by
    rw [find?_applyAll, if_pos (Flag.named?_eq_none_iff.mpr hkey)]
  named key flag hkey := by
    rw [find?_applyAll, Flag.named?_eq_some_iff.mpr hkey, if_neg nofun, Option.none_or]
  ordered hordered := ordered_applyAll options properties hordered

/-- The last pair of each flag and of each other key decides, over what was there before. So two
pairs can be exchanged unless they are for one flag or one key, the names of a flag stand for each
other, and runs of pairs add up. -/
theorem pairs_layered (options : Options) (properties : List (String × String)) :
    Layered options properties (options.applyAll properties) ∧
      (∀ value, flagValue value = true ↔ Text.SaysTrue value.toList) ∧
      (∀ others, SameEnds others properties →
        options.applyAll others = options.applyAll properties) ∧
      (∀ before first second after, properties = before ++ first :: second :: after →
        first.1 ≠ second.1 →
        (∀ flag : Flag, ¬ (first.1 ∈ flag.names ∧ second.1 ∈ flag.names)) →
        options.applyAll (before ++ second :: first :: after) = options.applyAll properties) ∧
      (∀ before key value after, properties = before ++ (key, value) :: after →
        ∀ flag : Flag, key ∈ flag.names → ∀ other ∈ flag.names,
          options.applyAll (before ++ (other, value) :: after) = options.applyAll properties) ∧
      ∀ more, (options.applyAll properties).applyAll more = options.applyAll (properties ++ more) := by
  refine ⟨layered_applyAll options properties, fun value => flagValue_eq_true_iff,
    fun others hends => applyAll_congr hends options, ?_, ?_, fun more => ?_⟩
  · rintro before first second after rfl hkeys hflags
    exact applyAll_congr (sameEnds_swap hkeys hflags before after) options
  · rintro before key value after rfl flag hkey other hother
    exact applyAll_congr (sameEnds_rename hkey hother value before after) options
  · exact List.foldl_append.symm

/-- Options of a file, and pairs that override some of them. -/
theorem pairs_layered_banner :
    ∃ options, ofToml "[generator]\nuseHttpResource = false\nreadonlyModels = false\n" =
        .ok options ∧
      let changed := options.applyAll
        [("readonlyOutputModels", "no"), ("banner", "hello"), ("readonlyModels", " True "),
          ("banner", "true")]
      changed.get .useReactiveResource = false ∧ changed.get .readonlyOutputModels = true ∧
        OrderedMap.find? changed.additionalProperties "banner" = some "true" ∧
        OrderedMap.find? changed.additionalProperties "readonlyModels" = none ∧
        Ordered changed.additionalProperties ∧
        options.applyAll [("banner", "hello"), ("readonlyOutputModels", "no"),
          ("readonlyModels", " True "), ("banner", "true")] = changed ∧
        options.applyAll [("readonlyModels", "no"), ("banner", "hello"),
          ("readonlyModels", " True "), ("banner", "true")] = changed := by
  have hload : ofToml "[generator]\nuseHttpResource = false\nreadonlyModels = false\n" =
      .ok { useReactiveResource := false, readonlyOutputModels := false } := by
    decide +kernel
  refine ⟨_, hload, ?_⟩
  intro changed
  obtain ⟨hlayered, hvalue, -, hswap, hrename, -⟩ := pairs_layered
    { useReactiveResource := false, readonlyOutputModels := false }
    [("readonlyOutputModels", "no"), ("banner", "hello"), ("readonlyModels", " True "),
      ("banner", "true")]
  have hblank : ∀ c ∈ [' '], Text.isBlank c = true := List.forall_mem_singleton.mpr rfl
  have htrue : flagValue " True " = true :=
    (hvalue _).mpr ⟨[' '], "True".toList, [' '], by decide, hblank, hblank, by decide⟩
  have hbanner : ∀ flag : Flag, "banner" ∉ flag.names := Flag.named?_eq_none_iff.mp (by decide)
  refine ⟨hlayered.flag _, (hlayered.flag _).trans htrue, hlayered.other _ hbanner,
    hlayered.named _ .readonlyOutputModels (by decide), hlayered.ordered ?_, ?_, ?_⟩
  · rw [additionalProperties_of_ofToml hload]
    exact List.Pairwise.nil
  · exact hswap [] _ _ _ rfl (by decide) fun flag hboth => hbanner flag hboth.2
  · exact hrename [] _ _ _ rfl .readonlyOutputModels (by decide) _ (by decide)

end Options

end ClientPlan
