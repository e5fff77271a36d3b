import Mathlib.Data.List.DropRight
import PlanCourier.Proofs.Config.Layers

/-!
# The scheme of an address

Addresses are made of the base URL of a configuration without the slashes at its end. The check of a
configuration reads the base URL without the white space around it. So an address starts with
`http://` or `https://` where neither makes a difference: no white space stands before the base URL,
and something follows its scheme.

Main statements:

- `Text.prefix_dropEndWhile_iff`: what is dropped at the end of a text matters to no prefix that
  ends before it;
- `Url.isHttp_slash`: the scheme of an address is that of what stands before a single slash;
- `Url.isHttp_trimBase_iff`: dropping its slashes takes the scheme from a base URL without a host;
- `isHttp_of_checked`: which addresses of an accepted configuration start with a scheme.
-/

namespace PlanCourier

namespace Text

/-- What is dropped at the end of a text matters to no prefix whose last item is kept. -/
theorem prefix_dropEndWhile_iff {α : Type} {p : α → Bool} {start cs : List α}
    (h : ∀ c ∈ start.getLast?, p c = false) : start <+: dropEndWhile p cs ↔ start <+: cs := by
  constructor
  · exact fun hstart => hstart.trans (List.rdropWhile_prefix p cs)
  · rintro ⟨rest, rfl⟩
    obtain rfl | ⟨before, c, rfl⟩ := start.eq_nil_or_concat
    · exact List.nil_prefix
    · have hc : p c = false := h c (by simp)
      rw [List.concat_append, dropEndWhile_append_cons _ _ hc, List.concat_eq_append]
      exact ⟨dropEndWhile p rest, by simp⟩

end Text

namespace Url

/-- The schemes up to their two slashes. -/
def schemes : List (List Char) := ["http:".toList, "https:".toList]

theorem isHttp_iff {s : String} :
    isHttp s ↔ ∃ scheme ∈ schemes, scheme ++ ['/', '/'] <+: s.toList := by
  simp [isHttp, schemes]

theorem exists_of_mem_schemes {scheme : List Char} (h : scheme ∈ schemes) :
    '/' ∉ scheme ∧ ∃ c rest, scheme = c :: rest ∧ Text.isBlank c = false := by
  simp only [schemes, List.mem_cons, List.not_mem_nil, or_false] at h
  obtain rfl | rfl := h <;> exact ⟨by decide, 'h', _, rfl, by decide⟩

/-- Before a slash a scheme is complete, or the slash is its first one and another one follows. -/
theorem scheme_prefix_slash_iff {scheme t rest : List Char} (hscheme : '/' ∉ scheme)
    (ht : t.getLast? ≠ some '/') : scheme ++ ['/', '/'] <+: t ++ '/' :: rest ↔
      scheme ++ ['/', '/'] <+: t ∨ t = scheme ∧ ['/'] <+: rest := by
  induction t generalizing scheme with
  | nil =>
    cases scheme with
    | nil => simp
    | cons c scheme =>
      have hc : c ≠ '/' := by grind
      simp [hc]
  | cons d t ih =>
    have ht' : t.getLast? ≠ some '/' := by
      cases t with
      | nil => simp
      | cons e t => simpa using ht
    cases scheme with
    | nil =>
      cases t with
      | nil =>
        have hd : d ≠ '/' := by simpa using ht
        simp [Ne.symm hd]
      | cons e t => simp
    | cons c scheme =>
      have hrest : scheme ++ ['/', '/'] <+: t ++ '/' :: rest ↔ _ := ih (by grind) ht'
      simp only [List.cons_append, List.cons_prefix_cons, hrest, List.cons.injEq]
      grind

/-- A base URL is what is left of it and slashes, and what is left does not end in a slash. -/
theorem exists_trimBase (base : String) : ∃ slashes : List Char,
    base.toList = (trimBase base).toList ++ slashes ∧ (∀ c ∈ slashes, c = '/') ∧
      (trimBase base).toList.getLast? ≠ some '/' := by
  have htrim : (trimBase base).toList = base.toList.rdropWhile isSlash := String.toList_ofList
  refine ⟨base.toList.rtakeWhile isSlash, ?_, fun c hc => ?_, fun hlast => ?_⟩
  · rw [htrim, List.rdropWhile_append_rtakeWhile]
  · simpa [isSlash] using List.mem_rtakeWhile_imp hc
  · rw [htrim] at hlast
    have hne : base.toList.rdropWhile isSlash ≠ [] := by
      intro hnil
      simp [hnil] at hlast
    rw [List.getLast?_eq_some_getLast hne] at hlast
    exact List.rdropWhile_last_not isSlash base.toList hne (by simpa [isSlash] using hlast)

/-- The scheme of an address is that of what stands before a single slash. -/
theorem isHttp_slash {base rest : String} (h : rest.toList.head? ≠ some '/') :
    isHttp (trimBase base ++ "/" ++ rest) ↔ isHttp (trimBase base) := by
  obtain ⟨-, -, -, hlast⟩ := exists_trimBase base
  have hrest : ¬ ['/'] <+: rest.toList := by
    rintro ⟨more, hmore⟩
    exact h (by simp [← hmore])
  rw [isHttp_iff, isHttp_iff]
  refine exists_congr fun scheme => and_congr_right fun hscheme => ?_
  have hslash : scheme ++ ['/', '/'] <+: (trimBase base).toList ++ '/' :: rest.toList ↔ _ :=
    scheme_prefix_slash_iff (exists_of_mem_schemes hscheme).1 hlast
  simpa [hrest] using hslash

/-- Dropping its slashes takes the scheme from a base URL just where nothing else follows it. -/
theorem isHttp_trimBase_iff {base : String} :
    isHttp (trimBase base) ↔ isHttp base ∧ (trimBase base).toList ∉ schemes := by
  obtain ⟨slashes, hbase, hslashes, hlast⟩ := exists_trimBase base
  have hbare : isHttp (trimBase base) → (trimBase base).toList ∉ schemes := by
    rw [isHttp_iff]
    rintro ⟨scheme, hscheme, hstart⟩ hbare
    exact (exists_of_mem_schemes hbare).1 (hstart.mem (by simp))
  refine ⟨fun h => ⟨?_, hbare h⟩, fun ⟨h, hhost⟩ => ?_⟩
  · obtain ⟨scheme, hscheme, hstart⟩ := isHttp_iff.1 h
    exact isHttp_iff.2 ⟨scheme, hscheme, hbase ▸ hstart.trans (List.prefix_append _ _)⟩
  · obtain ⟨scheme, hscheme, hstart⟩ := isHttp_iff.1 h
    refine isHttp_iff.2 ⟨scheme, hscheme, ?_⟩
    rw [hbase] at hstart
    cases slashes with
    | nil => simpa using hstart
    | cons c more =>
      obtain rfl := hslashes c List.mem_cons_self
      obtain hfull | ⟨hscheme', -⟩ :=
        (scheme_prefix_slash_iff (exists_of_mem_schemes hscheme).1 hlast).1 hstart
      · exact hfull
      · exact absurd (hscheme' ▸ hscheme) hhost

def IsFlush (s : String) : Prop := ∀ c ∈ s.toList.head?, Text.isBlank c = false

theorem isFlush_of_isHttp {s : String} (h : isHttp s) : IsFlush s := by
  intro c hc
  obtain ⟨scheme, hscheme, rest, hrest⟩ := isHttp_iff.1 h
  obtain ⟨-, d, more, rfl, hd⟩ := exists_of_mem_schemes hscheme
  obtain rfl : d = c := by simpa [← hrest] using hc
  exact hd

/-- White space at the end of a text makes no difference to its scheme. -/
theorem isHttp_trimmed {s : String} (h : IsFlush s) : isHttp (Text.trimmed s) ↔ isHttp s := by
  have hstart : Text.trimStart s.toList = s.toList := by
    cases hcs : s.toList with
    | nil => rfl
    | cons c cs => exact Text.trimStart_of_head (h c (by simp [hcs]))
  have htrim : (Text.trimmed s).toList = Text.dropEndWhile Text.isBlank s.toList := by
    rw [Text.trimmed, String.toList_ofList, Text.trim, Text.trimEnd, hstart]
  rw [isHttp_iff, isHttp_iff, htrim]
  refine exists_congr fun scheme => and_congr_right fun _ => Text.prefix_dropEndWhile_iff ?_
  have hlast : (scheme ++ ['/', '/']).getLast? = some '/' := by simp
  simpa [hlast] using (by decide : Text.isBlank '/' = false)

/-- What can be put before paths: no white space stands before it, and it has more than a scheme. -/
structure IsBase (base : String) : Prop where
  flush : IsFlush base
  hosted : (trimBase base).toList ∉ schemes

variable {base : String}

/-- Of the base URLs in which a scheme is found, these are the ones that keep it. -/
theorem isHttp_trimBase_iff_isBase (h : isHttp (Text.trimmed base)) :
    isHttp (trimBase base) ↔ IsBase base := by
  rw [isHttp_trimBase_iff]
  exact ⟨fun ⟨hbase, hhost⟩ => ⟨isFlush_of_isHttp hbase, hhost⟩,
    fun ⟨hflush, hhost⟩ => ⟨(isHttp_trimmed hflush).1 h, hhost⟩⟩

theorem isHttp_solve (base package : String) :
    isHttp (solve base package) ↔ isHttp (trimBase base) := by
  have hpath : "/package/" = "/" ++ "package/" := rfl
  rw [solve, hpath, ← String.append_assoc, String.append_assoc, String.append_assoc]
  exact isHttp_slash (by simp)

theorem isHttp_join (base path : String) :
    isHttp (join base path) ↔ isHttp (trimBase base) := by
  refine isHttp_slash fun h => ?_
  have hhead := List.head?_dropWhile_not isSlash path.toList
  rw [trimPath, String.toList_ofList] at h
  simp [h, isSlash] at hhead

theorem isHttp_poll {handle : String} (hrelative : ¬ isHttp handle)
    (hsingle : ¬ ['/', '/'] <+: handle.toList) :
    isHttp (poll base handle) ↔ isHttp (trimBase base) := by
  unfold poll
  rw [if_neg hrelative]
  split
  next hslash =>
    obtain ⟨rest, hrest⟩ := List.isPrefixOf_iff_prefix.1 hslash
    have hhandle : handle = "/" ++ String.ofList rest := by
      rw [← String.ofList_toList (s := handle), ← hrest]
      simp
    rw [hhandle, ← String.append_assoc]
    refine isHttp_slash fun h => hsingle ?_
    obtain ⟨more, rfl⟩ := List.head?_eq_some_iff.1 (String.toList_ofList ▸ h)
    exact ⟨more, hrest⟩
  next hslash =>
    refine isHttp_slash fun h => hslash (List.isPrefixOf_iff_prefix.2 ?_)
    obtain ⟨more, hmore⟩ := List.head?_eq_some_iff.1 h
    exact ⟨more, hmore.symm⟩

theorem isHttp_poll_of_trimBase (h : isHttp (trimBase base)) (handle : String) :
    isHttp (poll base handle) := by
  unfold poll
  split
  next hhandle => exact hhandle
  next =>
    split
    next => exact isHttp_append h _
    next =>
      rw [String.append_assoc]
      exact isHttp_append h _

end Url

open Url in
/-- The addresses that an accepted configuration leads to.

All addresses under its base URL start with a scheme where the base URL does so without white space
before it and has more than a scheme; otherwise none of them does, but for handles that bring a
scheme or two slashes of their own. So do those of its collections, whose address is read as it
stands, where it has more than a scheme. -/
theorem isHttp_of_checked {c c' : Config} (h : c.check = .ok c') :
    c' = c ∧
    (∀ package, isHttp (solve c'.service.baseUrl package) ↔ IsBase c'.service.baseUrl) ∧
    (∀ path, isHttp (join c'.service.baseUrl path) ↔ IsBase c'.service.baseUrl) ∧
    (∀ handle, IsBase c'.service.baseUrl → isHttp (poll c'.service.baseUrl handle)) ∧
    (∀ handle, ¬ isHttp handle → ¬ ['/', '/'] <+: handle.toList →
      (isHttp (poll c'.service.baseUrl handle) ↔ IsBase c'.service.baseUrl)) ∧
    (∀ path, isHttp (join c'.catalog.apiUrl path) ↔ IsBase c'.catalog.apiUrl) := by
  obtain ⟨hnone, rfl⟩ := Config.check_eq_ok.1 h
  have hbase := isHttp_trimBase_iff_isBase (Config.check_baseUrl hnone)
  have hcatalog := Config.check_apiUrl hnone
  have hapi := isHttp_trimBase_iff_isBase ((isHttp_trimmed (isFlush_of_isHttp hcatalog)).2 hcatalog)
  refine ⟨rfl, fun package => ?_, fun path => ?_, fun handle hb => ?_, fun handle hr hs => ?_,
    fun path => ?_⟩
  · rw [isHttp_solve, hbase]
  · rw [isHttp_join, hbase]
  · exact isHttp_poll_of_trimBase (hbase.2 hb) handle
  · rw [isHttp_poll hr hs, hbase]
  · rw [isHttp_join, hapi]

namespace Sample

/-- The built-in configuration with another base URL. -/
def basedAt (url : String) : Config :=
  { Config.builtin with service := { ServiceSection.builtin with baseUrl := url } }

end Sample

/-- With the built-in configuration every package is addressed with a scheme. -/
theorem isHttp_of_builtin : Config.builtin.check = .ok Config.builtin ∧
    ∀ package, Url.isHttp (Url.solve Config.builtin.service.baseUrl package) := by
  have hfault : Config.builtin.fault? = none := by rfl
  have haccepted : Config.builtin.check = .ok Config.builtin := Config.check_eq_ok.2 ⟨hfault, rfl⟩
  have hbase : Url.IsBase Config.builtin.service.baseUrl :=
    (Url.isHttp_trimBase_iff_isBase (Config.check_baseUrl hfault)).1 rfl
  obtain ⟨-, hsolve, -⟩ := isHttp_of_checked haccepted
  exact ⟨haccepted, fun package => (hsolve package).2 hbase⟩

/-- A base URL after a space, and one without a host, are accepted and lead to addresses that do not
start with a scheme. -/
theorem accepted_without_scheme :
    (Sample.basedAt " http://localhost:5001").check =
      .ok (Sample.basedAt " http://localhost:5001") ∧
    Url.isHttp (Url.solve " http://localhost:5001" "lama") = false ∧
    (Sample.basedAt "http://").check = .ok (Sample.basedAt "http://") ∧
    Url.isHttp (Url.join "http://" "package") = false := by
  have hspaced : (Sample.basedAt " http://localhost:5001").fault? = none := by rfl
  have hhostless : (Sample.basedAt "http://").fault? = none := by rfl
  exact ⟨Config.check_eq_ok.2 ⟨hspaced, rfl⟩, by rfl, Config.check_eq_ok.2 ⟨hhostless, rfl⟩, by rfl⟩

end PlanCourier
