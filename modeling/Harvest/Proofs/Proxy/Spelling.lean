import Harvest.Proofs.Text.Ascii
import Harvest.Proofs.Url.Escape
import Harvest.Proxy.Endpoint
import Mathlib.Control.Monad.Basic
/-!
# Harvest.Proofs.Proxy.Spelling

An endpoint's `host:port` spelling, read back as a proxy entry.

A read endpoint has a host without brackets and a port from 1 to 65535 (`Endpoint.parse_ok`). Its
spelling is `host:port`, with the host in brackets when it holds a colon. Read back, a bracketed
spelling splits at the colon after the `]` and gives the host whole; a plain one is first trimmed,
which takes the blanks that open the host away with it, and then splits at its only colon. The
port's decimal form reads back as the port (`Decimal.parseInt64_render`).

Main statement (`Endpoint.render_reads_back`): reading back the spelling of a read endpoint gives
its host as `Endpoint.readBackHost` says, or fails on an empty host when that is nothing, so the
endpoint comes back whole whenever its host does not begin with a blank. A host that begins with
a blank, as in `[ a]:80`, does not (`Endpoint.leading_blank_lost`).
-/

namespace Harvest

/-! ## Decimal ports -/

namespace Decimal

/-- Digits read as the number they write. -/
theorem digitsValue_of_digits {cs : List Char} (h : ∀ c ∈ cs, c.isDigit = true) (acc : Nat) :
    digitsValue cs acc = some (Nat.ofDigitChars 10 cs acc) := by
  induction cs generalizing acc with
  | nil => rfl
  | cons c cs ih =>
    rw [digitsValue, if_pos (h c List.mem_cons_self),
      ih (fun d hd => h d (List.mem_cons_of_mem _ hd)), Nat.ofDigitChars_cons, Nat.mul_comm]
    rfl

/-- The decimal form of a non-negative integer is its digits. -/
theorem toList_render {n : Int} (h0 : 0 ≤ n) : (render n).toList = Nat.toDigits 10 n.toNat := by
  simp [render, Int.repr_eq_if, h0]

/-- The decimal form of a non-negative integer in range reads back as that integer. -/
theorem parseInt64_render {n : Int} (h0 : 0 ≤ n) (hmax : n ≤ int64Max) :
    parseInt64? (render n) = some n := by
  have hdig : ∀ c ∈ Nat.toDigits 10 n.toNat, c.isDigit = true := fun c hc =>
    Nat.isDigit_of_mem_toDigits (by decide) (by decide) hc
  obtain ⟨d, ds, hcons⟩ := List.exists_cons_of_ne_nil (Nat.toDigits_ne_nil (b := 10) (n := n.toNat))
  have hd : d.isDigit = true := hdig d (hcons ▸ List.mem_cons_self)
  unfold parseInt64?
  rw [toList_render h0, hcons]
  dsimp only
  -- a digit is no sign, so the whole text is the digits
  split
  · next rest heq => exact absurd ((List.cons.inj heq).1 ▸ hd) (by decide)
  · next rest heq => exact absurd ((List.cons.inj heq).1 ▸ hd) (by decide)
  · simp only [List.isEmpty_cons, Bool.false_eq_true, if_false]
    rw [← hcons, digitsValue_of_digits hdig, Nat.ofDigitChars_ten_toDigits]
    simp [int64Min, int64Max] at hmax ⊢
    omega

end Decimal

/-! ## Trimming a spelling -/

/-- Leading trimming stops at a character that is not blank. -/
theorem dropWhile_blank_append {l r : List Char} (hr : ∀ c ∈ r.head?, isBlank c = false) :
    (l ++ r).dropWhile isBlank = l.dropWhile isBlank ++ r := by
  rw [List.dropWhile_append]
  split
  · next hl => rw [List.isEmpty_iff.1 hl, List.nil_append, dropWhile_blank_of_head hr]
  · rfl

/-- A text that ends in a character that is not blank is trimmed at its start only. -/
theorem trimBlank_append_last {m : List Char} {z : Char} (hz : isBlank z = false) :
    trimBlank (String.ofList (m ++ [z])) = String.ofList (m.dropWhile isBlank ++ [z]) := by
  unfold trimBlank
  rw [String.toList_ofList, dropWhile_blank_append (by simpa using hz), List.reverse_append,
    List.reverse_singleton, List.singleton_append, List.dropWhile_cons_of_neg (by simpa using hz)]
  simp

/-- A digit is no blank. -/
theorem isBlank_of_isDigit {c : Char} (h : c.isDigit = true) : isBlank c = false := by
  have hb : 48 ≤ c.toNat ∧ c.toNat ≤ 57 := by
    simp only [Char.isDigit, Bool.and_eq_true, decide_eq_true_eq] at h
    exact ⟨h.1, h.2⟩
  simp only [isBlank]
  grind

namespace Endpoint

/-! ## Splitting a spelling -/

theorem firstIndex_append_cons {x y : List Char} {c : Char} (hx : c ∉ x) :
    firstIndex (x ++ c :: y) c = some x.length := by
  have hnone : x.findIdx? (· == c) = none :=
    List.findIdx?_eq_none_iff.2 fun a ha => by
      simp only [beq_eq_false_iff_ne]
      rintro rfl
      exact hx ha
  simp [firstIndex, List.findIdx?_append, hnone, List.findIdx?_cons]

theorem lastIndex_append_cons {x y : List Char} {c : Char} (hy : c ∉ y) :
    lastIndex (x ++ c :: y) c = some x.length := by
  have hrev : (x ++ c :: y).reverse = y.reverse ++ c :: x.reverse := by simp
  have hnone : y.reverse.findIdx? (· == c) = none :=
    List.findIdx?_eq_none_iff.2 fun a ha => by
      simp only [beq_eq_false_iff_ne]
      rintro rfl
      exact hy (List.mem_reverse.1 ha)
  simp only [lastIndex, hrev, List.findIdx?_append, hnone]
  simp [List.findIdx?_cons]

/-- No occurrence of a character stands before its first one. -/
theorem not_mem_take_of_firstIndex {cs : List Char} {c : Char} {n : Nat}
    (h : firstIndex cs c = some n) : c ∉ cs.take n := by
  obtain ⟨hlt, -, hbefore⟩ := List.findIdx?_eq_some_iff_getElem.1 h
  intro hmem
  obtain ⟨j, hj, hjc⟩ := List.mem_take_iff_getElem.1 hmem
  exact hbefore j (by omega) (by simp [hjc])

/-- Digits hold none of the characters that structure an address. -/
theorem not_sep_of_digits {d : List Char} (hd : ∀ c ∈ d, c.isDigit = true) :
    ':' ∉ d ∧ '[' ∉ d ∧ ']' ∉ d :=
  ⟨fun h => absurd (hd _ h) (by decide), fun h => absurd (hd _ h) (by decide),
    fun h => absurd (hd _ h) (by decide)⟩

/-- A plain `host:port` splits at its only colon. -/
theorem splitHostPort_plain {h d : List Char} (hc : ':' ∉ h) (hob : '[' ∉ h) (hcb : ']' ∉ h)
    (hd : ∀ c ∈ d, c.isDigit = true) :
    splitHostPort (String.ofList (h ++ ':' :: d)) = .ok (String.ofList h, String.ofList d) := by
  obtain ⟨hdc, hdo, hdcb⟩ := not_sep_of_digits hd
  have hhead : ((h ++ ':' :: d).head? == some '[') = false := by
    cases h with
    | nil => rfl
    | cons a t =>
      have ha : a ≠ '[' := fun he => hob (he ▸ List.mem_cons_self)
      simpa using ha
  unfold splitHostPort
  simp only [String.toList_ofList, lastIndex_append_cons hdc, hhead]
  simp [hc, hob, hcb, hdo, hdcb]

/-- A bracketed `[host]:port` splits at the colon after the `]`. -/
theorem splitHostPort_bracketed {h d : List Char} (hob : '[' ∉ h) (hcb : ']' ∉ h)
    (hd : ∀ c ∈ d, c.isDigit = true) :
    splitHostPort (String.ofList ('[' :: (h ++ ']' :: ':' :: d))) =
      .ok (String.ofList h, String.ofList d) := by
  obtain ⟨hdc, hdo, hdcb⟩ := not_sep_of_digits hd
  have hlast : lastIndex ('[' :: (h ++ ']' :: ':' :: d)) ':' = some (h.length + 2) := by
    have := lastIndex_append_cons (x := '[' :: (h ++ [']'])) (y := d) hdc
    simpa using this
  have hfirst : firstIndex ('[' :: (h ++ ']' :: ':' :: d)) ']' = some (h.length + 1) := by
    have := firstIndex_append_cons (x := '[' :: h) (y := ':' :: d) (c := ']') (by simpa using hcb)
    simpa using this
  unfold splitHostPort
  simp only [String.toList_ofList, hlast, hfirst]
  simp [hob, hdo, hdcb]

/-- A host split off an address holds no bracket: a plain host is checked for both, a bracketed
one ends before the first `]` and is checked for `[`. -/
theorem splitHostPort_host {addr host port : String} (h : splitHostPort addr = .ok (host, port)) :
    '[' ∉ host.toList ∧ ']' ∉ host.toList := by
  unfold splitHostPort at h
  dsimp only at h
  split at h
  · cases h
  · next i hi =>
    split at h
    · cases h
    · next hp j k hpart =>
      -- after the host part, both bracket checks passed and the host is that part
      have hob : '[' ∉ addr.toList.drop j := by
        intro hm
        rw [if_pos (by simpa using hm)] at h
        cases h
      have hcb : ']' ∉ addr.toList.drop k := by
        intro hm
        rw [if_neg (by simpa using hob), if_pos (by simpa using hm)] at h
        cases h
      rw [if_neg (by simpa using hob), if_neg (by simpa using hcb)] at h
      obtain ⟨rfl, -⟩ := Prod.mk.inj (Except.ok.inj h)
      rw [String.toList_ofList]
      split at hpart
      · -- a bracketed host lies between the first `[` and the first `]`
        split at hpart
        · cases hpart
        · next endIdx hend =>
          split at hpart
          · cases hpart
          split at hpart
          · obtain ⟨rfl, rfl, -⟩ :
                List.drop 1 (List.take endIdx addr.toList) = hp ∧ 1 = j ∧ endIdx + 1 = k := by
              simpa using hpart
            refine ⟨fun hm => hob ?_, fun hm => not_mem_take_of_firstIndex hend ?_⟩
            · rw [List.drop_take] at hm
              exact List.mem_of_mem_take hm
            · exact List.mem_of_mem_drop hm
          · split at hpart <;> cases hpart
      · -- a plain host is the text before the last colon, checked whole
        split at hpart
        · cases hpart
        · obtain ⟨rfl, rfl, rfl⟩ : List.take i addr.toList = hp ∧ 0 = j ∧ 0 = k := by
            simpa using hpart
          exact ⟨fun hm => hob (List.mem_of_mem_take hm), fun hm => hcb (List.mem_of_mem_take hm)⟩

/-! ## Reading an entry -/

/-- What a read endpoint is made of: a non-empty host without brackets and a port from 1 to
65535. -/
theorem parse_ok {s : String} {e : Endpoint} (h : parse s = .ok e) :
    e.host ≠ "" ∧ '[' ∉ e.host.toList ∧ ']' ∉ e.host.toList ∧ 0 < e.port ∧ e.port ≤ 65535 := by
  unfold parse at h
  dsimp only at h
  split at h
  · cases h
  · next host portText hsplit =>
    obtain ⟨hob, hcb⟩ := splitHostPort_host hsplit
    split at h
    · cases h
    · next hne =>
      split at h
      · next port hport =>
        split at h
        · next hrange =>
          cases h
          simp only [Bool.and_eq_true, decide_eq_true_eq] at hrange
          exact ⟨by simpa using hne, hob, hcb, hrange.1, hrange.2⟩
        · cases h
      · cases h

/-- An entry whose text opens with `[` is not given as `http://`. -/
theorem startsWith_http_bracket (l : List Char) :
    (String.ofList ('[' :: l)).startsWith "http://" = false := by
  rw [Bool.eq_false_iff]
  intro h
  -- the literal and the entry are both read as their characters
  rw [String.startsWith_string_iff, String.toList_ofList, String.toList_ofList,
    List.cons_prefix_cons] at h
  exact absurd h.1 (by decide)

/-- A plain spelling is not given as `http://`: its first colon is followed by digits, where
`http://` has `//`. -/
theorem startsWith_http_plain {h d : List Char} (hc : ':' ∉ h) (hd : ∀ c ∈ d, c.isDigit = true) :
    (String.ofList (h ++ ':' :: d)).startsWith "http://" = false := by
  rw [Bool.eq_false_iff]
  intro hpre
  rw [String.startsWith_string_iff] at hpre
  simp only [String.toList_ofList] at hpre
  obtain ⟨u, hu⟩ := hpre
  have hsplit : ['h', 't', 't', 'p'] ++ ':' :: ('/' :: '/' :: u) = h ++ ':' :: d := hu
  obtain ⟨-, hrest⟩ := List.append_inj_of_stop (P := (· = ':'))
    (List.forall_mem_of_all (by decide)) (fun c hmem heq => hc (heq ▸ hmem))
    (by simp) (by simp) hsplit
  have hslash : '/' ∈ d := by
    rw [← (List.cons.inj hrest).2]
    exact List.mem_cons_self
  exact absurd (hd _ hslash) (by decide)

/-- The host a spelling reads back with: a host holding a colon is bracketed and comes back
whole; any other loses its leading blanks to the trimming of the entry. -/
def readBackHost (host : String) : String :=
  if ':' ∈ host.toList then host else String.ofList (host.toList.dropWhile isBlank)

/-- A decimal port as its digits: not empty, its last digit not blank. -/
theorem port_digits {p : Int} (hp : 0 < p) :
    ∃ d z, (Decimal.render p).toList = d ++ [z] ∧ isBlank z = false ∧
      ∀ c ∈ (Decimal.render p).toList, c.isDigit = true := by
  have hdig : ∀ c ∈ (Decimal.render p).toList, c.isDigit = true := fun c hc => by
    rw [Decimal.toList_render (by omega)] at hc
    exact Nat.isDigit_of_mem_toDigits (by decide) (by decide) hc
  have hne : (Decimal.render p).toList ≠ [] := by
    rw [Decimal.toList_render (by omega)]
    exact Nat.toDigits_ne_nil
  refine ⟨_, _, (List.dropLast_concat_getLast hne).symm, ?_, hdig⟩
  exact isBlank_of_isDigit (hdig _ (List.getLast_mem hne))

/-- The characters of a spelling: `[host]:port` for a host holding a colon, `host:port` for any
other. -/
theorem render_toList (e : Endpoint) :
    e.render.toList =
      if ':' ∈ e.host.toList then
        '[' :: (e.host.toList ++ ']' :: ':' :: (Decimal.render e.port).toList)
      else e.host.toList ++ ':' :: (Decimal.render e.port).toList := by
  unfold render joinHostPort
  rw [String.contains_char_eq]
  by_cases hc : ':' ∈ e.host.toList <;> simp [hc]

/-- A plain spelling reads back with the host's leading blanks trimmed away, or fails on an empty
host when the host was only blanks. -/
theorem parse_plain {h : List Char} {p : Int} (hc : ':' ∉ h) (hob : '[' ∉ h) (hcb : ']' ∉ h)
    (hp0 : 0 < p) (hp1 : p ≤ 65535) :
    parse (String.ofList (h ++ ':' :: (Decimal.render p).toList)) =
      if h.dropWhile isBlank = [] then .error ⟨":" ++ Decimal.render p, .emptyHost⟩
      else .ok ⟨String.ofList (h.dropWhile isBlank), p⟩ := by
  obtain ⟨d, z, hdz, hz, hdig⟩ := port_digits hp0
  have hsub : ∀ c ∈ h.dropWhile isBlank, c ∈ h := fun c hm =>
    (List.dropWhile_suffix isBlank).subset hm
  -- trimming takes the host's leading blanks and nothing else
  have htrim : trimBlank (String.ofList (h ++ ':' :: (Decimal.render p).toList)) =
      String.ofList (h.dropWhile isBlank ++ ':' :: (Decimal.render p).toList) := by
    rw [hdz, show h ++ ':' :: (d ++ [z]) = (h ++ ':' :: d) ++ [z] by simp, trimBlank_append_last hz,
      dropWhile_blank_append (by simp [isBlank])]
    simp
  unfold parse
  dsimp only
  rw [htrim, startsWith_http_plain (fun hm => hc (hsub _ hm)) hdig, if_neg (by simp),
    splitHostPort_plain (fun hm => hc (hsub _ hm)) (fun hm => hob (hsub _ hm))
      (fun hm => hcb (hsub _ hm)) hdig]
  dsimp only
  by_cases hnil : h.dropWhile isBlank = []
  · rw [if_pos hnil, if_pos (by simp [hnil])]
    simp [hnil]
  · rw [if_neg hnil, if_neg (by simpa using hnil), String.ofList_toList,
      Decimal.parseInt64_render (by omega) (by simp only [Decimal.int64Max]; omega)]
    simp [hp0, hp1]

/-- A bracketed spelling reads back with its host whole. -/
theorem parse_bracketed {h : List Char} {p : Int} (hob : '[' ∉ h) (hcb : ']' ∉ h) (hne : h ≠ [])
    (hp0 : 0 < p) (hp1 : p ≤ 65535) :
    parse (String.ofList ('[' :: (h ++ ']' :: ':' :: (Decimal.render p).toList))) =
      .ok ⟨String.ofList h, p⟩ := by
  obtain ⟨d, z, hdz, hz, hdig⟩ := port_digits hp0
  -- a spelling that opens with `[` and ends with a digit is not trimmed
  have htrim : trimBlank (String.ofList ('[' :: (h ++ ']' :: ':' :: (Decimal.render p).toList))) =
      String.ofList ('[' :: (h ++ ']' :: ':' :: (Decimal.render p).toList)) := by
    rw [hdz, show '[' :: (h ++ ']' :: ':' :: (d ++ [z])) = ('[' :: (h ++ ']' :: ':' :: d)) ++ [z] by
      simp, trimBlank_append_last hz, List.dropWhile_cons_of_neg (by decide)]
  unfold parse
  dsimp only
  rw [htrim, startsWith_http_bracket, if_neg (by simp), splitHostPort_bracketed hob hcb hdig]
  dsimp only
  rw [if_neg (by simpa using hne), String.ofList_toList,
    Decimal.parseInt64_render (by omega) (by simp only [Decimal.int64Max]; omega)]
  simp [hp0, hp1]

/-- The spelling of an endpoint with a host without brackets and a port from 1 to 65535 reads
back with the host `readBackHost` gives, or fails on an empty host when that is nothing. -/
theorem parse_render {e : Endpoint} (hob : '[' ∉ e.host.toList) (hcb : ']' ∉ e.host.toList)
    (hne : e.host ≠ "") (hp0 : 0 < e.port) (hp1 : e.port ≤ 65535) :
    parse e.render =
      if readBackHost e.host = "" then .error ⟨":" ++ Decimal.render e.port, .emptyHost⟩
      else .ok ⟨readBackHost e.host, e.port⟩ := by
  rw [← String.ofList_toList (s := e.render), render_toList]
  by_cases hc : ':' ∈ e.host.toList
  · have hback : readBackHost e.host = e.host := if_pos hc
    rw [if_pos hc, parse_bracketed hob hcb (by simpa using hne) hp0 hp1, String.ofList_toList,
      hback, if_neg hne]
  · have hback : readBackHost e.host = String.ofList (e.host.toList.dropWhile isBlank) := if_neg hc
    rw [if_neg hc, parse_plain hc hob hcb hp0 hp1, hback]
    by_cases hnil : e.host.toList.dropWhile isBlank = []
    · rw [if_pos hnil, if_pos (by simp [hnil])]
    · rw [if_neg hnil, if_neg (by simpa using hnil)]

/-- Reading back the spelling of a read endpoint gives the endpoint with the host
`readBackHost` gives, or fails on an empty host when that is nothing; so an endpoint whose host
does not begin with a blank comes back whole. -/
theorem render_reads_back {s : String} {e : Endpoint} (h : parse s = .ok e) :
    parse e.render =
        (if readBackHost e.host = "" then .error ⟨":" ++ Decimal.render e.port, .emptyHost⟩
        else .ok ⟨readBackHost e.host, e.port⟩) ∧
      ((∀ c ∈ e.host.toList.head?, isBlank c = false) → parse e.render = .ok e) := by
  obtain ⟨hne, hob, hcb, hp0, hp1⟩ := parse_ok h
  have hread := parse_render hob hcb hne hp0 hp1
  refine ⟨hread, fun hhead => ?_⟩
  -- a host that does not begin with a blank is its own read-back host
  have hback : readBackHost e.host = e.host := by
    unfold readBackHost
    split
    · rfl
    · rw [dropWhile_blank_of_head hhead, String.ofList_toList]
  rw [hread, hback, if_neg hne]

theorem render_reads_back_proxy :
    parse " proxy.local:3128 " = .ok ⟨"proxy.local", 3128⟩ ∧
      parse (render ⟨"proxy.local", 3128⟩) = .ok ⟨"proxy.local", 3128⟩ := by
  have hparse : parse " proxy.local:3128 " = .ok ⟨"proxy.local", 3128⟩ := by decide +kernel
  have hhead : ∀ c ∈ ("proxy.local" : String).toList.head?, isBlank c = false := by
    rw [show ("proxy.local" : String).toList.head? = some 'p' by decide]
    intro c hc
    rw [← Option.mem_some_iff.1 hc]
    decide
  exact ⟨hparse, (render_reads_back hparse).2 hhead⟩

/-- A bracketed host that begins with a blank is read, but its spelling reads back without the
blank, or not at all when the host is only a blank. -/
theorem leading_blank_lost :
    parse "[ a]:80" = .ok ⟨" a", 80⟩ ∧ parse (render ⟨" a", 80⟩) = .ok ⟨"a", 80⟩ ∧
      parse "[ ]:80" = .ok ⟨" ", 80⟩ ∧ parse (render ⟨" ", 80⟩) = .error ⟨":80", .emptyHost⟩ := by
  -- the spellings are read back through `parse_render`: the decimal form of a port is written
  -- by the platform's number printer, which evaluation does not open
  have hentry : ":" ++ Decimal.render 80 = ":80" :=
    String.toList_inj.1 (by rw [String.toList_append, Decimal.toList_render (by decide)]; decide)
  have ha : readBackHost " a" = "a" := by decide +kernel
  have hb : readBackHost " " = "" := by decide +kernel
  refine ⟨by decide +kernel, ?_, by decide +kernel, ?_⟩
  · rw [parse_render (by decide) (by decide) (by decide) (by decide) (by decide), ha,
      if_neg (by decide)]
  · rw [parse_render (by decide) (by decide) (by decide) (by decide) (by decide), hb, if_pos rfl,
      hentry]

end Endpoint

end Harvest
