import KratosSaml.Middleware

/-!
# When `url.Parse` fails

`instantiateMiddleware` parses the public URL followed by the ACS route, returning
the error, and then the public URL followed by the metadata route, dropping the
error and dereferencing the result. This module follows Go's `net/url` (`Parse`,
`parse`, `getScheme`, `unescape`) as far as the question needs: whether the parse
returns an error. The parsed URL's fields are not computed, and `parseAuthority`
stays a parameter. Both routes' URLs have the same authority.

What is proved: after any prefix the two routes parse alike, so the metadata URL's
parse never fails once the ACS URL's succeeded, and its dereference never panics.
-/

namespace KratosSaml.GoUrl

/-- `stringContainsCTLByte`, per character: no byte of a multi-byte character is a
control byte. -/
def isCTL (c : Char) : Bool := c.toNat < 0x20 || c.toNat == 0x7f

def isHex (c : Char) : Bool :=
  c.isDigit || (decide ('a' ≤ c) && decide (c ≤ 'f')) || (decide ('A' ≤ c) && decide (c ≤ 'F'))

/-- `unescape`'s check of the `%` escapes in a path or a fragment. -/
def validEscapes : List Char → Bool
  | [] => true
  | '%' :: a :: b :: rest => isHex a && isHex b && validEscapes rest
  | '%' :: _ => false
  | _ :: rest => validEscapes rest

/-- `strings.Cut` at one character: the text before it, and the text after it if
it occurs. -/
def cut (sep : Char) : List Char → List Char × Option (List Char)
  | [] => ([], none)
  | c :: cs => if c = sep then ([], some cs) else (c :: (cut sep cs).1, (cut sep cs).2)

/-- `getScheme`: the scheme and the rest, or the error of a leading colon. -/
def getScheme (rawURL : List Char) : Except String (List Char × List Char) :=
  go [] rawURL
where
  go (scheme : List Char) : List Char → Except String (List Char × List Char)
    | [] => .ok ([], rawURL)
    | c :: cs =>
      if c.isAlpha then go (scheme ++ [c]) cs
      else if c.isDigit || c = '+' || c = '-' || c = '.' then
        if scheme = [] then .ok ([], rawURL) else go (scheme ++ [c]) cs
      else if c = ':' then
        if scheme = [] then .error "missing protocol scheme" else .ok (scheme, cs)
      else .ok ([], rawURL)

/-- The query split off: a single trailing `?` forces an empty query. -/
def splitQuery (rest : List Char) : List Char :=
  if rest.getLast? = some '?' ∧ rest.count '?' = 1 then rest.dropLast else (cut '?' rest).1

/-- The authority up to the next `/`, then the path from it. -/
def authorityAndPath (authorityOk : List Char → Bool) (afterSlashes : List Char) : Bool :=
  match cut '/' afterSlashes with
  | (authority, none) => authorityOk authority
  | (authority, some path) => authorityOk authority && validEscapes ('/' :: path)

/-- `parse` once the scheme and the query are split off: an opaque URL, the colon
check of a relative path, the authority, and the path's escapes. -/
def parseRest (authorityOk : List Char → Bool) (scheme rest : List Char) : Bool :=
  if rest.head? ≠ some '/' ∧ scheme ≠ [] then true
  else if rest.head? ≠ some '/' ∧ ':' ∈ (cut '/' rest).1 then false
  else if (scheme ≠ [] ∨ ¬ ['/', '/', '/'].isPrefixOf rest) ∧ ['/', '/'].isPrefixOf rest then
    authorityAndPath authorityOk (rest.drop 2)
  else validEscapes rest

/-- `parse(rawURL, false)` returns no error. -/
def parse (authorityOk : List Char → Bool) (rawURL : List Char) : Bool :=
  if rawURL.any isCTL then false
  else if rawURL = ['*'] then true
  else
    match getScheme rawURL with
    | .error _ => false
    | .ok (scheme, rest) => parseRest authorityOk scheme (splitQuery rest)

/-- `url.Parse` returns no error: the text before `#`, then the fragment's escapes. -/
def parses (authorityOk : List Char → Bool) (rawURL : List Char) : Bool :=
  parse authorityOk (cut '#' rawURL).1 && (cut '#' rawURL).2.all validEscapes

/-- `url.Parse`, with `parseAuthority`'s verdict given; the URL is its text, and the
error's text is not modelled. -/
def urlParse (authorityOk : List Char → Bool) (s : String) : Except GoError URL :=
  if parses authorityOk s.data then .ok ⟨s⟩ else .error (.other "parse")

example : parses (fun _ => true) "https://kratos.example/self-service/methods/saml/acs".data :=
  by decide

example : parses (fun _ => true) "https://kratos.example/a%zz".data = false := by decide

theorem cut_append_of_mem {sep : Char} {l : List Char} (h : sep ∈ l) (x : List Char) :
    cut sep (l ++ x) = ((cut sep l).1, (cut sep l).2.map (· ++ x)) := by
  induction l with
  | nil => cases h
  | cons c cs ih =>
    by_cases hc : c = sep
    · simp [cut, hc]
    · have hcs : sep ∈ cs := (List.mem_cons.mp h).resolve_left (Ne.symm hc)
      simp [cut, hc, ih hcs]

theorem cut_append_of_not_mem {sep : Char} {l : List Char} (h : sep ∉ l) (x : List Char) :
    cut sep (l ++ x) = (l ++ (cut sep x).1, (cut sep x).2) := by
  induction l with
  | nil => rfl
  | cons c cs ih =>
    have hc : c ≠ sep := fun hc => h (hc ▸ List.mem_cons_self c cs)
    simp [cut, hc, ih (fun hm => h (List.mem_cons_of_mem c hm))]

theorem cut_of_not_mem {sep : Char} {l : List Char} (h : sep ∉ l) : cut sep l = (l, none) := by
  simpa [cut] using cut_append_of_not_mem h []

/-- A character other than `%` is passed over. -/
theorem validEscapes_cons_of_ne {c : Char} (hc : c ≠ '%') (rest : List Char) :
    validEscapes (c :: rest) = validEscapes rest := by
  match rest with
  | [] | [_] | _ :: _ :: _ => simp [validEscapes, hc]

theorem validEscapes_of_not_mem : ∀ {l : List Char}, '%' ∉ l → validEscapes l = true
  | [], _ => rfl
  | c :: rest, h => by
    rw [validEscapes_cons_of_ne (fun hc => h (hc ▸ List.mem_cons_self c rest))]
    exact validEscapes_of_not_mem (fun hm => h (List.mem_cons_of_mem c hm))

theorem isHex_slash : isHex '/' = false := rfl

/-- A `/` ends every escape before it: the escapes before and after it are checked
apart. -/
theorem validEscapes_append_slash : ∀ (l t : List Char),
    validEscapes (l ++ '/' :: t) = (validEscapes (l ++ ['/']) && validEscapes t)
  | [], t => by simp only [List.nil_append, validEscapes_cons_of_ne (by decide : '/' ≠ '%')]; rfl
  | c :: rest, t => by
    by_cases hc : c = '%'
    · subst hc
      match rest with
      | [] => cases t <;> simp [validEscapes, isHex_slash]
      | [a] => simp [validEscapes, isHex_slash]
      | a :: b :: rest =>
        simp only [List.cons_append, validEscapes, List.append_eq, validEscapes_append_slash rest t,
          Bool.and_assoc]
    · simp only [List.cons_append, validEscapes_cons_of_ne hc, validEscapes_append_slash rest t]

/-- `getScheme` stops at a `/` at the latest: after any prefix, a path that starts
with `/` is carried through untouched. -/
theorem getScheme_go_append_slash (raw t : List Char) : ∀ (l scheme : List Char),
    getScheme.go (raw ++ '/' :: t) scheme (l ++ '/' :: t) =
      (getScheme.go (raw ++ ['/']) scheme (l ++ ['/'])).map
        fun r => (r.1, r.2.dropLast ++ '/' :: t)
  | [], scheme => by simp [getScheme.go, Except.map]
  | c :: cs, scheme => by
    simp only [List.cons_append, getScheme.go]
    split_ifs <;>
      simp only [Except.map, List.append_eq, List.dropLast_concat,
        getScheme_go_append_slash raw t cs]

theorem getScheme_append_slash (l t : List Char) :
    getScheme (l ++ '/' :: t) =
      (getScheme (l ++ ['/'])).map fun r => (r.1, r.2.dropLast ++ '/' :: t) :=
  getScheme_go_append_slash l t l []

theorem splitQuery_append {R x : List Char} (hx : x ≠ []) (hq : '?' ∉ x) :
    splitQuery (R ++ x) = if '?' ∈ R then (cut '?' R).1 else R ++ x := by
  have hlast : (R ++ x).getLast? ≠ some '?' := by
    rw [List.getLast?_append_of_ne_nil _ hx]
    exact fun h => hq (List.mem_of_getLast?_eq_some h)
  unfold splitQuery
  rw [if_neg (fun h => hlast h.1)]
  split_ifs with hR
  · rw [cut_append_of_mem hR]
  · rw [cut_append_of_not_mem hR, cut_of_not_mem hq]

theorem isPrefixOf_append_congr {p R x y : List Char} (h : x.take p.length = y.take p.length) :
    p.isPrefixOf (R ++ x) = p.isPrefixOf (R ++ y) := by
  have htake : ∀ z : List Char, (R ++ z).take p.length =
      R.take p.length ++ (z.take p.length).take (p.length - R.length) := fun z => by
    rw [List.take_append_eq_append_take, List.take_take, Nat.min_eq_left (Nat.sub_le _ _)]
  rw [Bool.eq_iff_iff, List.isPrefixOf_iff_prefix, List.isPrefixOf_iff_prefix,
    List.prefix_iff_eq_take, List.prefix_iff_eq_take, htake, htake, h]

theorem mem_of_cut_snd {sep c : Char} : ∀ {l a : List Char}, (cut sep l).2 = some a → c ∈ a → c ∈ l
  | [], _, h, _ => by simp [cut] at h
  | d :: ds, a, h, hc => by
    by_cases hd : d = sep
    · simp only [cut, hd, if_true, Option.some.injEq] at h
      exact h ▸ List.mem_cons_of_mem d hc
    · simp only [cut, hd, if_false] at h
      exact List.mem_cons_of_mem d (mem_of_cut_snd h hc)

/-- Without escapes the path is accepted, and the authority decides. -/
theorem authorityAndPath_of_noEscape (authorityOk : List Char → Bool) {t : List Char}
    (ht : '%' ∉ t) : authorityAndPath authorityOk t = authorityOk (cut '/' t).1 := by
  unfold authorityAndPath
  rcases hcut : cut '/' t with ⟨b, _ | a⟩
  · rfl
  · have ha : '%' ∉ '/' :: a := by
      simpa using fun hm => ht (mem_of_cut_snd (by rw [hcut]) hm)
    simp [validEscapes_of_not_mem ha]

/-- What `parse` can see of a path after any prefix, once it starts with `/`: the
first two characters, the first segment, which is no empty one, and nothing else,
since neither path has an escape, a query, a fragment or a control character. -/
structure AlikeSuffixes (tx ty : List Char) : Prop where
  take_eq : tx.take 2 = ty.take 2
  not_slash : tx.head? ≠ some '/'
  segment_eq : (cut '/' tx).1 = (cut '/' ty).1
  noEscape_x : '%' ∉ tx
  noEscape_y : '%' ∉ ty
  noQuery_x : '?' ∉ tx
  noQuery_y : '?' ∉ ty
  noFragment_x : '#' ∉ tx
  noFragment_y : '#' ∉ ty
  noCTL_x : tx.any isCTL = false
  noCTL_y : ty.any isCTL = false

section Suffixes

variable {tx ty : List Char} (h : AlikeSuffixes tx ty) (authorityOk : List Char → Bool)
include h

theorem validEscapes_append_alike (Z : List Char) :
    validEscapes (Z ++ '/' :: tx) = validEscapes (Z ++ '/' :: ty) := by
  rw [validEscapes_append_slash Z tx, validEscapes_append_slash Z ty,
    validEscapes_of_not_mem h.noEscape_x, validEscapes_of_not_mem h.noEscape_y]

theorem isPrefixOf_alike (R : List Char) :
    ['/', '/'].isPrefixOf (R ++ '/' :: tx) = ['/', '/'].isPrefixOf (R ++ '/' :: ty) ∧
    ['/', '/', '/'].isPrefixOf (R ++ '/' :: tx) = ['/', '/', '/'].isPrefixOf (R ++ '/' :: ty) := by
  have h1 : tx.take 1 = ty.take 1 := by
    simpa [List.take_take] using congrArg (List.take 1) h.take_eq
  exact ⟨isPrefixOf_append_congr (by simp [h1]), isPrefixOf_append_congr (by simp [h.take_eq])⟩

theorem authorityAndPath_alike (R : List Char) (hpre : ['/', '/'].isPrefixOf (R ++ '/' :: tx)) :
    authorityAndPath authorityOk ((R ++ '/' :: tx).drop 2) =
      authorityAndPath authorityOk ((R ++ '/' :: ty).drop 2) := by
  rcases R with _ | ⟨r, _ | ⟨r2, R⟩⟩
  · have hns := h.not_slash
    cases tx with
    | nil => simp [List.isPrefixOf] at hpre
    | cons c tx =>
      simp [List.isPrefixOf] at hpre
      subst hpre
      exact absurd rfl hns
  · simp only [List.singleton_append, List.drop_succ_cons, List.drop_zero]
    rw [authorityAndPath_of_noEscape _ h.noEscape_x, authorityAndPath_of_noEscape _ h.noEscape_y,
      h.segment_eq]
  · simp only [List.cons_append, List.drop_succ_cons, List.drop_zero]
    unfold authorityAndPath
    by_cases hR : '/' ∈ R
    · rw [cut_append_of_mem hR, cut_append_of_mem hR]
      rcases (cut '/' R).2 with _ | a
      · rfl
      · have := validEscapes_append_alike h ('/' :: a)
        simp only [List.cons_append] at this
        simp only [Option.map_some', List.cons_append, this]
    · rw [cut_append_of_not_mem hR, cut_append_of_not_mem hR]
      have := validEscapes_append_alike h []
      simp only [List.nil_append] at this
      simp [cut, this]

theorem parseRest_alike (scheme R : List Char) :
    parseRest authorityOk scheme (R ++ '/' :: tx) =
      parseRest authorityOk scheme (R ++ '/' :: ty) := by
  have hhead : (R ++ '/' :: tx).head? = (R ++ '/' :: ty).head? := by cases R <;> rfl
  have hseg : (cut '/' (R ++ '/' :: tx)).1 = (cut '/' (R ++ '/' :: ty)).1 := by
    by_cases hR : '/' ∈ R
    · rw [cut_append_of_mem hR, cut_append_of_mem hR]
    · rw [cut_append_of_not_mem hR, cut_append_of_not_mem hR]
      simp [cut]
  obtain ⟨hpre2, hpre3⟩ := isPrefixOf_alike h R
  unfold parseRest
  rw [hhead, hseg, hpre2, hpre3]
  split_ifs with h1 h2 h3
  · rfl
  · rfl
  · exact authorityAndPath_alike h authorityOk R (hpre2 ▸ h3.2)
  · exact validEscapes_append_alike h R

theorem parse_alike (P : List Char) :
    parse authorityOk (P ++ '/' :: tx) = parse authorityOk (P ++ '/' :: ty) := by
  have hctl : (P ++ '/' :: tx).any isCTL = (P ++ '/' :: ty).any isCTL := by
    simp [List.any_append, h.noCTL_x, h.noCTL_y, isCTL]
  have hstar : ∀ t, P ++ '/' :: t ≠ ['*'] := fun t ht => by
    cases P <;> simp_all
  have hq : ∀ {t}, '?' ∉ t → '?' ∉ '/' :: t := fun ht => by simpa using ht
  unfold parse
  rw [hctl, if_neg (hstar tx), if_neg (hstar ty), getScheme_append_slash P tx,
    getScheme_append_slash P ty]
  rcases getScheme (P ++ ['/']) with e | ⟨scheme, rest⟩
  · rfl
  · simp only [Except.map]
    rw [splitQuery_append (List.cons_ne_nil _ _) (hq h.noQuery_x),
      splitQuery_append (List.cons_ne_nil _ _) (hq h.noQuery_y)]
    split_ifs
    · rfl
    · rfl
    · exact parseRest_alike h authorityOk scheme rest.dropLast

theorem parses_alike (P : List Char) :
    parses authorityOk (P ++ '/' :: tx) = parses authorityOk (P ++ '/' :: ty) := by
  unfold parses
  by_cases hP : '#' ∈ P
  · rw [cut_append_of_mem hP, cut_append_of_mem hP]
    rcases (cut '#' P).2 with _ | a
    · rfl
    · simp only [Option.map_some', Option.all_some, validEscapes_append_alike h a]
  · have hf : ∀ {t}, '#' ∉ t → '#' ∉ '/' :: t := fun ht => by simpa using ht
    rw [cut_append_of_not_mem hP, cut_append_of_not_mem hP, cut_of_not_mem (hf h.noFragment_x),
      cut_of_not_mem (hf h.noFragment_y)]
    simpa using parse_alike h authorityOk P

end Suffixes

theorem routes_alike :
    AlikeSuffixes Handler.routeSamlAcs.data.tail Handler.routeSamlMetadata.data.tail :=
  ⟨by decide, by decide, by decide, by decide, by decide, by decide, by decide, by decide,
    by decide, by decide, by decide⟩

/-- With Go's parser, the public URL followed by the metadata route parses whenever
it parses followed by the ACS route, whatever `parseAuthority` accepts. -/
theorem urlParse_parsesAlike (authorityOk : List Char → Bool) :
    ParsesAlike (urlParse authorityOk) := by
  intro s u hacs
  have hroute : ∀ r : String, r.data = '/' :: r.data.tail →
      (s ++ r).data = s.data ++ '/' :: r.data.tail :=
    fun r hr => by rw [← hr]; rfl
  have hacs' : parses authorityOk (s ++ Handler.routeSamlAcs).data = true := by
    unfold urlParse at hacs
    split at hacs
    · assumption
    · cases hacs
  rw [hroute _ (by decide), parses_alike routes_alike] at hacs'
  exact ⟨_, by rw [urlParse, hroute _ (by decide), if_pos hacs']⟩

end KratosSaml.GoUrl
