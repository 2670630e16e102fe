import ReportCard.Image.Fetch
import ReportCard.Proofs.Image.Reduction

/-!
# Files stay below the public root

A local source is followed from the public root name by name.  It is refused exactly if the names that it leads along do
not begin with those of the root; so a path may leave the root and come back, and what is read is a file below the root
(`Path.locate_encloses`).
-/

namespace ReportCard

namespace Path

/-- The text of an absolute path: it begins with a slash, and like every path it has no NUL. -/
structure IsAbsolute (text : String) : Prop where
  slash : text.toList.head? = some '/'
  noNul : Char.ofNat 0 ∉ text.toList

/-- The text behind the slashes that it begins with. -/
def behindSlashes (text : String) : String := String.ofList (text.toList.dropWhile (· == '/'))

private theorem root_ofText {text : String} (h : text.toList.head? = some '/') :
    (ofText text).root.isEmpty = false := by
  cases hcs : text.toList with
  | nil => simp [hcs] at h
  | cons c cs =>
    obtain rfl : c = '/' := by simpa [hcs] using h
    have hlength : ((('/' :: cs).takeWhile (· == '/')).length ≠ 0) := by simp
    rw [ofText, hcs]
    dsimp only
    split
    · contradiction
    · rfl
    · rfl

/-- The names of a root and of a path that continues it hold no NUL if neither text does. -/
private theorem hasNul_append {root rest : String} (hroot : Char.ofNat 0 ∉ root.toList)
    (hrest : Char.ofNat 0 ∉ rest.toList) :
    (ofText root).hasNul = false ∧ ((ofText root).resolve.append (namesOf rest.toList)).hasNul = false := by
  have hnames : ∀ {text : String}, Char.ofNat 0 ∉ text.toList →
      ∀ name ∈ namesOf text.toList, name.toList.contains (Char.ofNat 0) = false := by
    intro text htext name hname
    simpa using notMem_of_mem_namesOf htext hname
  refine ⟨List.any_eq_false.2 fun name hname => ?_, List.any_eq_false.2 fun name hname => ?_⟩
  · rw [hnames hroot name hname]
    exact Bool.false_ne_true
  · rcases List.mem_append.1 hname with hname | hname
    · rw [hnames hroot name (mem_names_of_mem_resolve hname)]
      exact Bool.false_ne_true
    · rw [hnames hrest name hname]
      exact Bool.false_ne_true

/-- The path that a source leads to from a root. -/
private def target (root source : String) : Path :=
  ((ofText root).resolve.append (namesOf (behindSlashes source).toList)).resolve

/-- Locating a source compares the names of the root with those that the source leads along. -/
private theorem locate_eq {root source : String} (hroot : IsAbsolute root) (hsource : Char.ofNat 0 ∉ source.toList) :
    locate (ofText root) source =
      if (ofText root).resolve.names <+: (target root source).names then .ok ⟨"/", (target root source).names⟩
      else .error (Refusal.outside.fault source) := by
  have hrest : (behindSlashes source).toList = source.toList.dropWhile (· == '/') := String.toList_ofList
  have hnul : Char.ofNat 0 ∉ (behindSlashes source).toList := by
    rw [hrest]
    exact fun h => hsource ((List.dropWhile_sublist _).subset h)
  obtain ⟨htop, hwhole⟩ := hasNul_append hroot.noNul hnul
  have habsolute : (ofText root).resolve.root = "/" := by
    rw [resolve, root_ofText hroot.slash]
    rfl
  have htarget : target root source = ⟨"/", (target root source).names⟩ := by
    show Path.mk (if (ofText root).resolve.root.isEmpty then "" else "/") _ = _
    rw [habsolute]
    rfl
  rw [target, hrest] at htarget ⊢
  rw [hrest] at hwhole
  simp only [locate, htop, hwhole, Bool.or_self, Bool.false_eq_true, if_false, List.isPrefixOf_iff_prefix]
  split
  · exact congrArg Except.ok htarget
  · rfl

end Path

namespace Fetcher

/-- A file that is read without the web stands where its source is located. -/
private theorem lookup_of_fetch {f : Fetcher} {site : Site} {source : String} {requests : List String}
    {data : ImageData} (hlocal : isRemote source = false) (h : f.fetch site source = (requests, .loaded data)) :
    ∃ path, f.root.locate source = .ok path ∧
      site.files.lookup (path.names.drop f.root.resolve.names.length) = some data := by
  have hattempt : (f.attempt site source).2 = .loaded data := by
    have houtcome : (f.attempt site source).2.outcome = .loaded data := congrArg Prod.snd h
    cases ha : (f.attempt site source).2 <;> simp_all [Attempt.outcome]
  have hopen : f.openFile site source = .loaded data := by
    unfold attempt at hattempt
    split at hattempt
    · cases hattempt
    · rw [hlocal] at hattempt
      cases ha : f.openFile site source with
      | loaded data' =>
        simp only [ha, Bool.false_eq_true, if_false] at hattempt
        split at hattempt
        · exact hattempt
        · cases hattempt
      | _ => simp [ha] at hattempt
  unfold openFile at hopen
  split at hopen
  · cases hopen
  · cases hopen
  · rename_i path hpath
    refine ⟨path, hpath, ?_⟩
    dsimp only at hopen
    split at hopen
    · cases hopen
    · split at hopen
      · rename_i hlookup
        rw [hlookup]
        cases hopen
        rfl
      · cases hopen

end Fetcher

namespace Path

/-- From an absolute root, a source leads along the names that the two texts joined together reduce to.  It is refused
exactly if these do not begin with the names of the root; otherwise it is located there, at the root or below it.  So
what a local source yields, if the root is no file itself, are the bytes of a file below the root. -/
theorem locate_encloses {root source : String} (hroot : IsAbsolute root) (hsource : Char.ofNat 0 ∉ source.toList) :
    ∃ top names : List String,
      Normalizes (pieces root) top ∧ Normalizes (pieces (root ++ "/" ++ behindSlashes source)) names ∧
      (locate (ofText root) source = .error (Refusal.outside.fault source) ↔ ¬top <+: names) ∧
      (top <+: names → locate (ofText root) source = .ok ⟨"/", names⟩) ∧ ".." ∉ names ∧
      ∀ (site : Site) (timeout : Float) (requests : List String) (data : ImageData),
        site.files.lookup [] = none → isRemote source = false →
        Fetcher.fetch ⟨ofText root, timeout⟩ site source = (requests, .loaded data) →
        ∃ below, below ≠ [] ∧ names = top ++ below ∧ site.files.lookup below = some data := by
  have hnames : Normalizes (pieces (root ++ "/" ++ behindSlashes source)) (target root source).names :=
    normalizes_append root (behindSlashes source)
  have hlocate := locate_eq hroot hsource
  refine ⟨(ofText root).resolve.names, (target root source).names, normalizes_resolve root, hnames, ?_, ?_, ?_, ?_⟩
  · rw [hlocate]
    split <;> simp [*]
  · intro hprefix
    rw [hlocate, if_pos hprefix]
  · exact fun hup => (hnames.isName _ hup).ne_up rfl
  · intro site timeout requests data hfile hlocal hfetch
    obtain ⟨path, hpath, hlookup⟩ := Fetcher.lookup_of_fetch hlocal hfetch
    dsimp only at hpath hlookup
    rw [hlocate] at hpath
    split at hpath
    · rename_i hprefix
      obtain ⟨below, hbelow⟩ := hprefix
      cases hpath
      rw [← hbelow, List.drop_left] at hlookup
      refine ⟨below, ?_, hbelow.symm, hlookup⟩
      rintro rfl
      rw [hfile] at hlookup
      cases hlookup
    · cases hpath

/-- A source that leaves the root and comes back is located below it. -/
theorem locate_encloses_returning :
    let root := "//srv/./www/../public"
    let source := "//logos/../../public/./school.png"
    IsAbsolute root ∧ Char.ofNat 0 ∉ source.toList ∧
      locate (ofText root) source = .ok ⟨"/", ["srv", "public", "school.png"]⟩ ∧
      ∃ top names : List String,
        Normalizes (pieces root) top ∧ Normalizes (pieces (root ++ "/" ++ behindSlashes source)) names ∧
        (locate (ofText root) source = .error (Refusal.outside.fault source) ↔ ¬top <+: names) ∧
        (top <+: names → locate (ofText root) source = .ok ⟨"/", names⟩) ∧ ".." ∉ names ∧
        ∀ (site : Site) (timeout : Float) (requests : List String) (data : ImageData),
          site.files.lookup [] = none → isRemote source = false →
          Fetcher.fetch ⟨ofText root, timeout⟩ site source = (requests, .loaded data) →
          ∃ below, below ≠ [] ∧ names = top ++ below ∧ site.files.lookup below = some data := by
  intro root source
  have hroot : IsAbsolute root := ⟨by decide, by decide⟩
  have hsource : Char.ofNat 0 ∉ source.toList := by decide
  exact ⟨hroot, hsource, by decide +kernel, locate_encloses hroot hsource⟩

/-- A neighbour whose name begins like that of the root is outside. -/
example : locate (ofText "/srv/public") "../public-old/school.png" =
    .error (Refusal.outside.fault "../public-old/school.png") := by
  decide +kernel

end Path

end ReportCard
