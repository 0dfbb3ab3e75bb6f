import Mathlib.Data.List.DropRight
import UsageLedger.Path

/-!
# Paths under the home directory

A path with a tilde in front is one under the home directory, and every other path is left as it
is.  What stands behind the tilde is cut free of separators and idle dots at both ends before it
is joined, so it is never taken for a path from the root, however many slashes it starts with;
between its ends nothing is changed.

## Main definitions

* `Path.Component`, `Path.components` — what a path leads through.
* `Path.Trimmed` — what is left of a text without the separators and the idle dots at its two ends.

## Main results

* `Path.segments_append_slash`, `Path.ofSegments_segments` — texts are cut at their slashes, and
  nothing is lost.
* `Path.trimmed_ofSegments` — trimming takes away what is idle at the ends, and nothing else.
* `Path.components_join` — a path that is joined leads on from where the other one leads to.
* `Path.expandTilde_resolves` — **which paths lie under the home directory, and where.**
-/

namespace UsageLedger.Path

/-! ### Cutting at slashes -/

theorem cut_eq (read cs : List Char) :
    segments.cut read cs = (cs.splitOnPPrepend (· == '/') read).map String.ofList := by
  induction cs generalizing read with
  | nil => rfl
  | cons c cs ih =>
    rw [segments.cut, List.splitOnPPrepend_cons_eq_if, List.splitOnP_eq_splitOnPPrepend, ih, ih]
    by_cases hc : c = '/' <;> simp [hc]

theorem segments_eq_splitOn (path : String) :
    segments path = (path.toList.splitOn '/').map String.ofList :=
  cut_eq [] path.toList

/-- A slash separates the segments in front of it from those behind it. -/
theorem segments_append_slash (base path : String) :
    segments (base ++ "/" ++ path) = segments base ++ segments path := by
  have hlist : (base ++ "/" ++ path).toList = base.toList ++ '/' :: path.toList := by simp
  rw [segments_eq_splitOn, hlist, List.splitOn_append_cons_self, List.map_append,
    ← segments_eq_splitOn, ← segments_eq_splitOn]

@[simp] theorem segments_empty : segments "" = [""] := rfl

theorem segments_slash_append (path : String) : segments ("/" ++ path) = "" :: segments path :=
  segments_append_slash "" path

theorem segments_append_slash_end (base : String) :
    segments (base ++ "/") = segments base ++ [""] := by
  simpa using segments_append_slash base ""

theorem segments_ne_nil (path : String) : segments path ≠ [] := by
  simp [segments_eq_splitOn]

/-- **Segments with a slash between each two are the text that was cut.** -/
theorem ofSegments_segments (path : String) : ofSegments (segments path) = path := by
  apply String.toList_inj.mp
  have hlists : (segments path).map String.toList = path.toList.splitOn '/' := by
    simp [segments_eq_splitOn, Function.comp_def]
  rw [ofSegments, String.toList_intercalate, hlists]
  exact List.intercalate_splitOn '/'

theorem segments_ofSegments {ss : List String} (hne : ss ≠ []) (h : ∀ s ∈ ss, '/' ∉ s.toList) :
    segments (ofSegments ss) = ss := by
  have hsplit : (ofSegments ss).toList.splitOn '/' = ss.map String.toList := by
    rw [ofSegments, String.toList_intercalate]
    refine List.splitOn_intercalate '/' (fun cs hcs => ?_) (by simpa using hne)
    obtain ⟨s, hs, rfl⟩ := List.mem_map.mp hcs
    exact h s hs
  simp [segments_eq_splitOn, hsplit, Function.comp_def]

theorem slash_notMem_of_mem_segments {path s : String} (h : s ∈ segments path) :
    '/' ∉ s.toList := by
  have hcut : ∀ read cs : List Char, '/' ∉ read → ∀ s ∈ segments.cut read cs, '/' ∉ s.toList := by
    intro read cs
    induction cs generalizing read with
    | nil => simp [segments.cut]
    | cons c cs ih =>
      intro hread
      rw [segments.cut]
      split
      · exact List.forall_mem_cons.mpr ⟨by simpa using hread, ih [] (by simp)⟩
      · next hc => exact ih (c :: read) (by simp [hread, Ne.symm hc])
  exact hcut [] path.toList (by simp) s h

theorem ofSegments_append {as bs : List String} (has : as ≠ []) (hbs : bs ≠ []) :
    ofSegments (as ++ bs) = ofSegments as ++ "/" ++ ofSegments bs :=
  String.intercalate_append_of_ne_nil has hbs

/-! ### Trimming -/

/-- There is nothing in a text but separators and segments that lead nowhere. -/
def Idle (text : String) : Prop :=
  ∀ s ∈ segments text, isIdle s = true

/-- What is left of a text without the separators and the idle segments at its two ends. -/
inductive Trimmed (text : String) : String → Prop where
  /-- There was nothing else. -/
  | nothing (idle : Idle text) : Trimmed text ""
  /-- Something else is left, which starts and ends with a segment that is not idle; what was in
  front of it ends with a separator, and what was behind it starts with one. -/
  | middle {front inner back : String} (whole : text = front ++ inner ++ back)
      (front_idle : Idle front) (front_ends : front = "" ∨ ∃ f, front = f ++ "/")
      (back_idle : Idle back) (back_starts : back = "" ∨ ∃ b, back = "/" ++ b)
      (first : ∀ s ∈ (segments inner).head?, isIdle s = false)
      (last : ∀ s ∈ (segments inner).getLast?, isIdle s = false) : Trimmed text inner

/-- Nothing that is idle is left at either end of segments that are trimmed, and only what is
idle is gone. -/
theorem exists_trimIdle (ss : List String) :
    ∃ as bs, ss = as ++ trimIdle ss ++ bs ∧ (∀ s ∈ as, isIdle s = true) ∧
      (∀ s ∈ bs, isIdle s = true) ∧
      (∀ s ∈ (trimIdle ss).head?, isIdle s = false) ∧
      ∀ s ∈ (trimIdle ss).getLast?, isIdle s = false := by
  have htrim : trimIdle ss = (ss.dropWhile isIdle).rdropWhile isIdle := rfl
  refine ⟨ss.takeWhile isIdle, (ss.dropWhile isIdle).rtakeWhile isIdle, ?_,
    fun s hs => List.mem_takeWhile_imp hs, fun s hs => List.mem_rtakeWhile_imp hs, fun s hs =>
      ?_, fun s hs => ?_⟩
  · rw [htrim, List.append_assoc, List.rdropWhile_append_rtakeWhile,
      List.takeWhile_append_dropWhile]
  · -- what is first of the trimmed segments was first before those at the end were taken away
    obtain ⟨rest, hrest⟩ := htrim ▸ List.rdropWhile_prefix isIdle (ss.dropWhile isIdle)
    obtain ⟨tail, htail⟩ := List.head?_eq_some_iff.mp hs
    have hne : ss.dropWhile isIdle ≠ [] := by simp [← hrest, htail]
    have hhead := List.head_dropWhile_not isIdle hne
    simpa [← hrest, htail] using hhead
  · rw [htrim, Option.mem_def, List.getLast?_eq_some_iff] at hs
    obtain ⟨front, hfront⟩ := hs
    have hne : (ss.dropWhile isIdle).rdropWhile isIdle ≠ [] := by simp [hfront]
    simpa [hfront] using List.rdropWhile_last_not isIdle _ hne

/-- What stands in front of other segments, up to its last separator. -/
theorem exists_front {as : List String} (h : ∀ s ∈ as, isIdle s = true)
    (hslash : ∀ s ∈ as, '/' ∉ s.toList) :
    ∃ front, Idle front ∧ (front = "" ∨ ∃ f, front = f ++ "/") ∧
      ∀ bs ≠ [], ofSegments (as ++ bs) = front ++ ofSegments bs := by
  by_cases has : as = []
  · subst has
    exact ⟨"", by simp [Idle, isIdle], .inl rfl, by simp⟩
  · refine ⟨ofSegments as ++ "/", ?_, .inr ⟨_, rfl⟩, fun bs hbs => ofSegments_append has hbs⟩
    rw [Idle, segments_append_slash_end, segments_ofSegments has hslash]
    simpa [or_imp, forall_and] using ⟨h, rfl⟩

/-- What stands behind other segments, from its first separator on. -/
theorem exists_back {bs : List String} (h : ∀ s ∈ bs, isIdle s = true)
    (hslash : ∀ s ∈ bs, '/' ∉ s.toList) :
    ∃ back, Idle back ∧ (back = "" ∨ ∃ b, back = "/" ++ b) ∧
      ∀ as ≠ [], ofSegments (as ++ bs) = ofSegments as ++ back := by
  by_cases hbs : bs = []
  · subst hbs
    exact ⟨"", by simp [Idle, isIdle], .inl rfl, by simp⟩
  · refine ⟨"/" ++ ofSegments bs, ?_, .inr ⟨_, rfl⟩, fun as has => ?_⟩
    · rw [Idle, segments_slash_append, segments_ofSegments hbs hslash]
      simpa [isIdle] using h
    · rw [ofSegments_append has hbs, String.append_assoc]

/-- **Trimming takes away what is idle at the two ends of a text, and nothing else.** -/
theorem trimmed_ofSegments (text : String) :
    Trimmed text (ofSegments (trimIdle (segments text))) := by
  obtain ⟨as, bs, hss, has, hbs, hfirst, hlast⟩ := exists_trimIdle (segments text)
  -- no segment holds a slash, which is what lets them be cut again where they were joined
  have hslash : ∀ s ∈ segments text, '/' ∉ s.toList := fun s hs => slash_notMem_of_mem_segments hs
  generalize trimIdle (segments text) = middle at hss hfirst hlast
  rw [hss] at hslash
  simp only [List.mem_append, or_imp, forall_and] at hslash
  obtain ⟨⟨hslashas, hslashmiddle⟩, hslashbs⟩ := hslash
  by_cases hmiddle : middle = []
  · subst hmiddle
    -- all segments are idle, so nothing is left between the two ends
    refine .nothing fun s hs => ?_
    rw [hss, List.append_nil, List.mem_append] at hs
    exact hs.elim (has s) (hbs s)
  · obtain ⟨front, hfront, hends, hjoin⟩ := exists_front has hslashas
    obtain ⟨back, hback, hstarts, hjoin'⟩ := exists_back hbs hslashbs
    have hwhole : text = front ++ ofSegments middle ++ back := by
      rw [← ofSegments_segments text, hss, List.append_assoc, hjoin _ (by simp [hmiddle]),
        hjoin' _ hmiddle, String.append_assoc]
    rw [← segments_ofSegments hmiddle hslashmiddle] at hfirst hlast
    exact .middle hwhole hfront hends hback hstarts hfirst hlast

/-! ### Components -/

/-- What a path leads through. -/
inductive Component where
  /-- The root. -/
  | root
  /-- The directory that the path is followed from, named by a dot in front. -/
  | here
  /-- The directory above. -/
  | up
  /-- A file or directory with a name. -/
  | name (name : String)
  deriving DecidableEq

/-- Where a segment leads to, nothing for an idle one. -/
def component? (segment : String) : Option Component :=
  if isIdle segment then none else if segment = ".." then some .up else some (.name segment)

/-- Where a path starts, if it says so. -/
def start (path : String) : List Component :=
  if isAbsolute path then [.root] else if (segments path).head? = some "." then [.here] else []

/-- What a path leads through, from its start on: separators that are repeated or stand at the
end do not count, nor do dots, but for one in front. -/
def components (path : String) : List Component :=
  start path ++ (segments path).filterMap component?

theorem start_append {base : String} (hbase : base ≠ "") {tail : String}
    (h : (segments (base ++ tail)).head? = (segments base).head?) :
    start (base ++ tail) = start base := by
  have habsolute : isAbsolute (base ++ tail) = isAbsolute base := by
    obtain ⟨c, cs, hcs⟩ := List.exists_cons_of_ne_nil (mt String.toList_eq_nil_iff.mp hbase)
    simp [isAbsolute, hcs]
  rw [start, start, habsolute, h]

theorem isAbsolute_eq_false_of_start {path : String} (h : start path = []) :
    isAbsolute path = false := by
  cases habsolute : isAbsolute path with
  | false => rfl
  | true => simp [start, habsolute] at h

/-- A path whose first segment is not idle, and the empty one, do not say where they start. -/
theorem start_eq_nil {path : String}
    (h : path = "" ∨ ∀ s ∈ (segments path).head?, isIdle s = false) :
    start path = [] := by
  rcases h with rfl | h
  · rfl
  · have hroot : isAbsolute path = false := by
      cases habsolute : isAbsolute path with
      | false => rfl
      | true =>
        obtain ⟨cs, hcs⟩ := List.head?_eq_some_iff.mp (eq_of_beq habsolute)
        have hpath : path = "/" ++ String.ofList cs := by
          apply String.toList_inj.mp
          simp [hcs]
        rw [hpath, segments_slash_append] at h
        -- a path from the root begins with the empty segment
        exact absurd (h "" rfl) (by decide)
    have hdot : (segments path).head? ≠ some "." := fun hdot => absurd (h "." hdot) (by decide)
    rw [start, hroot, if_neg hdot]
    rfl

/-- What joins a path to another one. -/
def separator (base : String) : String :=
  if base.toList.getLast? = some '/' then "" else "/"

theorem join_eq {base path : String} (hbase : base ≠ "") (hpath : isAbsolute path = false) :
    join base path = base ++ separator base ++ path := by
  rw [join, hpath, separator]
  by_cases hend : base.toList.getLast? = some '/' <;> simp [hbase, hend]

/-- **A path that is joined leads on from where the other one leads to**, if it does not say
where it starts. -/
theorem components_join {base path : String} (hbase : base ≠ "") (hpath : start path = []) :
    components (join base path) = components base ++ components path := by
  rw [join_eq hbase (isAbsolute_eq_false_of_start hpath), separator]
  by_cases hend : base.toList.getLast? = some '/'
  · -- the separator at the end of the base is the one in between
    obtain ⟨cs, hcs⟩ := List.getLast?_eq_some_iff.mp hend
    obtain ⟨front, rfl⟩ : ∃ front, base = front ++ "/" := by
      refine ⟨String.ofList cs, String.toList_inj.mp ?_⟩
      simp [hcs]
    have hstart : start (front ++ "/" ++ path) = start (front ++ "/") := by
      apply start_append hbase
      rw [segments_append_slash, segments_append_slash_end,
        List.head?_append_of_ne_nil _ (segments_ne_nil _),
        List.head?_append_of_ne_nil _ (segments_ne_nil _)]
    rw [if_pos hend, String.append_empty, components, hstart, segments_append_slash, components,
      components, hpath, segments_append_slash_end]
    simp [component?, isIdle]
  · have hstart : start (base ++ ("/" ++ path)) = start base := by
      apply start_append hbase
      rw [← String.append_assoc, segments_append_slash,
        List.head?_append_of_ne_nil _ (segments_ne_nil _)]
    rw [if_neg hend, components, String.append_assoc, hstart, ← String.append_assoc,
      segments_append_slash, components, components, hpath]
    simp

/-! ### The tilde -/

theorem Trimmed.start_eq_nil {text inner : String} (h : Trimmed text inner) : start inner = [] := by
  cases h with
  | nothing _ => rfl
  | middle _ _ _ _ _ first _ => exact Path.start_eq_nil (.inr first)

theorem filterMap_component?_of_idle {ss : List String} (h : ∀ s ∈ ss, isIdle s = true) :
    ss.filterMap component? = [] := by
  rw [List.filterMap_eq_nil_iff]
  intro s hs
  rw [component?, if_pos (h s hs)]

/-- **Trimming a text does not change what it leads through.** -/
theorem Trimmed.components_eq {text inner : String} (h : Trimmed text inner) :
    components inner = (segments text).filterMap component? := by
  rw [components, h.start_eq_nil, List.nil_append]
  cases h with
  | nothing idle => rw [filterMap_component?_of_idle idle, segments_empty]; rfl
  | @middle front inner back whole front_idle front_ends back_idle back_starts _ _ =>
    -- what is cut off at either end is made of idle segments, and these name nothing
    have hback : (segments (inner ++ back)).filterMap component? =
        (segments inner).filterMap component? := by
      rcases back_starts with rfl | ⟨b, rfl⟩
      · rw [String.append_empty]
      · rw [Idle, segments_slash_append, List.forall_mem_cons] at back_idle
        rw [← String.append_assoc, segments_append_slash, List.filterMap_append,
          filterMap_component?_of_idle back_idle.2, List.append_nil]
    rw [whole, String.append_assoc, ← hback]
    rcases front_ends with rfl | ⟨f, rfl⟩
    · rw [String.empty_append]
    · rw [Idle, segments_append_slash_end, List.forall_mem_append] at front_idle
      rw [segments_append_slash, List.filterMap_append, filterMap_component?_of_idle front_idle.1,
        List.nil_append]

/-- A path that starts with another segment than the tilde is left as it is. -/
theorem expandTilde_eq_self (home : String) {path : String} (htilde : path ≠ "~")
    (hslash : ∀ rest, path ≠ "~/" ++ rest) : expandTilde home path = path := by
  rw [expandTilde]
  split
  · next rest hsegments =>
    -- such a path would be one of the two
    rw [← ofSegments_segments path, hsegments] at htilde hslash
    by_cases hrest : rest = []
    · subst hrest
      exact absurd rfl htilde
    · have hfront : ofSegments (["~"] ++ rest) = "~" ++ "/" ++ ofSegments rest :=
        ofSegments_append (by simp) hrest
      exact absurd hfront (hslash _)
  · rfl

/-- **Which paths lie under the home directory, and where.**  A tilde that stands alone or
before a slash is replaced by the home directory; behind it and one separator comes what stands
behind the tilde, without the separators and the idle segments at its two ends, and the path
leads through what the home directory leads through and then through what stood behind the
tilde.  Every other path is left as it is. -/
theorem expandTilde_resolves {home : String} (hhome : home ≠ "") (path : String) :
    (∀ rest, path = "~" ∧ rest = "" ∨ path = "~/" ++ rest →
      ∃ inner, Trimmed rest inner ∧ expandTilde home path = home ++ separator home ++ inner ∧
        components path = .name "~" :: components inner ∧
        components (expandTilde home path) = components home ++ components inner) ∧
      (path ≠ "~" → (∀ rest, path ≠ "~/" ++ rest) → expandTilde home path = path) := by
  refine ⟨fun rest hpath => ?_, expandTilde_eq_self home⟩
  -- both forms begin with the segment of the tilde; the rest is trimmed the same way
  obtain ⟨ss, hsegments, htrimmed, hcomponents⟩ : ∃ ss, segments path = "~" :: ss ∧
      Trimmed rest (ofSegments (trimIdle ss)) ∧
      ss.filterMap component? = (segments rest).filterMap component? := by
    rcases hpath with ⟨rfl, rfl⟩ | rfl
    · exact ⟨[], rfl, trimmed_ofSegments "", rfl⟩
    · exact ⟨segments rest, segments_append_slash "~" rest, trimmed_ofSegments rest, rfl⟩
  have hexpand : expandTilde home path = join home (ofSegments (trimIdle ss)) := by
    simp only [expandTilde, hsegments]
  refine ⟨ofSegments (trimIdle ss), htrimmed, ?_, ?_, ?_⟩
  · rw [hexpand, join_eq hhome (isAbsolute_eq_false_of_start htrimmed.start_eq_nil)]
  · have hstart : start path = [] := start_eq_nil (.inr fun s hs => by
      obtain rfl : "~" = s := by simpa [hsegments] using hs
      rfl)
    rw [htrimmed.components_eq, ← hcomponents, components, hstart, hsegments]
    rfl
  · rw [hexpand, components_join hhome htrimmed.start_eq_nil]

/-- Slashes and dots behind the tilde do not lead out of the home directory, and a tilde further
inside is a name. -/
theorem expandTilde_resolves_doubledSlash :
    ("/home/u" : String) ≠ "" ∧
      (∃ inner, Trimmed "/.//etc/./x/." inner ∧
        expandTilde "/home/u" "~//.//etc/./x/." = "/home/u" ++ separator "/home/u" ++ inner ∧
        components "~//.//etc/./x/." = .name "~" :: components inner ∧
        components (expandTilde "/home/u" "~//.//etc/./x/.") =
          components "/home/u" ++ components inner) ∧
      expandTilde "/home/u" "~//.//etc/./x/." = "/home/u/etc/./x" ∧
      expandTilde "/home/u" "/~/x" = "/~/x" := by
  have hhome : ("/home/u" : String) ≠ "" := by decide
  refine ⟨hhome, (expandTilde_resolves hhome _).1 _ (.inr rfl), by decide, ?_⟩
  refine (expandTilde_resolves hhome "/~/x").2 (by decide) fun rest h => ?_
  have hhead := congrArg (fun p : String => p.toList.head?) h
  simp at hhead

end UsageLedger.Path
