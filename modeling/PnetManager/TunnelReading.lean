import PnetManager.RuleMeaning
import PnetManager.Sections
import PnetManager.TunnelNames

/-!
# Reading the files of a tunnel back

The name and the key go into their files as they are. They come out again where
they cannot end the line or the quotation that they stand in.
-/

namespace PnetManager.TunnelReading
open CText FirewallScript FileStore SystemCalls IpsecTunnel TunnelFiles TunnelNames Sections
  Iptables RuleMeaning

set_option maxRecDepth 2000

def quote : Byte := 34

def keyword : Text := ascii "conn "

def lineKind (line : Text) : Line Text (Text × Text) :=
  if line.all isspace then .blank
  else if keyword <+: line then .header (line.drop keyword.length)
  else if line.head? = some 32 then
    let body := line.dropWhile (· = 32)
    match body.dropWhile (· ≠ 61) with
    | [] => .bad
    | _ :: value => .entry (body.takeWhile (· ≠ 61), value)
  else .bad

def readConf (file : Text) : Option (List (Section Text (Text × Text))) :=
  readSections lineKind (file.splitOn lf)

def tunnelOptions (l r : Text) : List (Text × Text) :=
  [(ascii "authby", ascii "secret"), (ascii "left", ascii "%defaultroute"),
    (ascii "leftid", l), (ascii "leftsubnet", l ++ ascii "/32"), (ascii "right", r),
    (ascii "rightsubnet", r ++ ascii "/32"), (ascii "ike", ascii "aes256-sha256-modp2048"),
    (ascii "esp", ascii "aes256-sha256"), (ascii "keyexchange", ascii "ikev2"),
    (ascii "auto", ascii "start"), (ascii "type", ascii "transport")]

def optionLine (o : Text × Text) : Text := ascii "    " ++ o.1 ++ ascii "=" ++ o.2

variable {name l r psk : Text} {localIp remoteIp : UInt32}

theorem confText_lines (name l r : Text) :
    confText name l r = [lf].intercalate
      ((keyword ++ name) :: ((tunnelOptions l r).map optionLine ++ [[], []])) := by
  simp [confText, tunnelOptions, optionLine, keyword, List.intercalate, ascii, lf]

theorem lineKind_header (name : Text) : lineKind (keyword ++ name) = .header name := by
  have hblank : (keyword ++ name).all isspace = false := by
    rw [List.all_append, (by decide : keyword.all isspace = false), Bool.false_and]
  rw [lineKind, hblank, if_neg Bool.false_ne_true, if_pos (List.prefix_append keyword name),
    List.drop_left]

theorem lineKind_optionLine {o : Text × Text} (hhead : o.1.head?.map isspace = some false)
    (heq : 61 ∉ o.1) : lineKind (optionLine o) = .entry o := by
  obtain ⟨c, hfirst, hc⟩ := Option.map_eq_some_iff.mp hhead
  obtain ⟨cs, hkey⟩ := List.head?_eq_some_iff.mp hfirst
  have hline : optionLine o = [32, 32, 32] ++ (32 :: (o.1 ++ 61 :: o.2)) := by
    simp [optionLine, ascii]
  have hblank : (optionLine o).all isspace = false := by
    simp [hline, hkey, hc]
  have hkeyword : ¬ keyword <+: optionLine o := by
    rw [hline]
    intro h
    exact absurd (List.cons_prefix_cons.mp h).1 (by decide)
  have hindent : (optionLine o).head? = some 32 := by
    rw [hline]
    rfl
  have hne : c ≠ 32 := by
    intro he
    rw [he] at hc
    exact absurd hc (by decide)
  have hbody : (optionLine o).dropWhile (· = 32) = o.1 ++ 61 :: o.2 := by
    rw [hline, List.dropWhile_append_of_pos (by decide), List.dropWhile_cons_of_pos (by decide),
      hkey, List.cons_append, List.dropWhile_cons_of_neg (by simpa using hne)]
  obtain ⟨htake, hdrop⟩ := takeWhile_ne_append heq o.2
  rw [lineKind, hblank, if_neg Bool.false_ne_true, if_neg hkeyword, if_pos hindent]
  simp only [hbody, hdrop, htake]

theorem tunnelOptions_keys (l r : Text) : ∀ key ∈ (tunnelOptions l r).map Prod.fst,
    key.head?.map isspace = some false ∧ 61 ∉ key ∧ OneLine key := by
  rw [tunnelOptions]
  simp only [List.map_cons, List.map_nil]
  decide

theorem lineKind_optionLines (l r : Text) :
    ((tunnelOptions l r).map optionLine).map lineKind = (tunnelOptions l r).map .entry := by
  rw [List.map_map, List.map_inj_left]
  intro o ho
  obtain ⟨hhead, heq, -⟩ := tunnelOptions_keys l r o.1 (List.mem_map_of_mem ho)
  exact lineKind_optionLine hhead heq

theorem oneLine_optionLines (hl : OneLine l) (hr : OneLine r) :
    ∀ line ∈ (tunnelOptions l r).map optionLine, OneLine line := by
  have hmask : OneLine (ascii "/32") := by decide
  have hvalues : ∀ value ∈ (tunnelOptions l r).map Prod.snd, OneLine value := by
    simp only [tunnelOptions, List.map_cons, List.map_nil, List.forall_mem_cons]
    exact ⟨by decide, by decide, hl, hl.append hmask, hr, hr.append hmask, by decide, by decide,
      by decide, by decide, by decide, List.forall_mem_nil _⟩
  intro line hline
  obtain ⟨o, ho, rfl⟩ := List.mem_map.mp hline
  obtain ⟨-, -, hkey⟩ := tunnelOptions_keys l r o.1 (List.mem_map_of_mem ho)
  have hindent : OneLine (ascii "    ") := by decide
  have hequals : OneLine (ascii "=") := by decide
  exact ((hindent.append hkey).append hequals).append (hvalues o.2 (List.mem_map_of_mem ho))

theorem readConf_confText_of_oneLine (hl : OneLine l) (hr : OneLine r) (hname : lf ∉ name) :
    readConf (confText name l r) = some [⟨name, tunnelOptions l r⟩] := by
  have hlines : ∀ line ∈ (keyword ++ name) :: ((tunnelOptions l r).map optionLine ++ [[], []]),
      lf ∉ line := by
    rw [List.forall_mem_cons, List.forall_mem_append]
    refine ⟨?_, fun line hline => (oneLine_optionLines hl hr line hline).no_lf, by decide⟩
    rw [List.mem_append]
    exact fun h => h.elim (by decide) hname
  rw [readConf, confText_lines, List.splitOn_intercalate lf hlines (List.cons_ne_nil _ _)]
  exact readSections_one (lineKind_header name) (lineKind_optionLines l r) (by simp [lineKind])

theorem no_lf_of_readConf {entries : List (Text × Text)}
    (hread : readConf (confText name l r) = some [⟨name, entries⟩]) : lf ∉ name := by
  intro hmem
  obtain ⟨a, b, hname, ha⟩ := List.eq_append_cons_of_mem hmem
  obtain ⟨rest, hrest⟩ : ∃ rest, confText name l r = (keyword ++ a) ++ lf :: rest := by
    rw [hname]
    simp [confText, keyword]
  have hline : lf ∉ keyword ++ a := by
    rw [List.mem_append]
    exact fun h => h.elim (by decide) ha
  rw [readConf, hrest, List.splitOn_append_cons_self_of_not_mem hline] at hread
  have hsame : name = a := Option.some.inj (readSections_head (lineKind_header a) hread)
  have hlen := congrArg List.length (hsame.symm.trans hname)
  simp at hlen

structure Secret where
  localIp : UInt32
  remoteIp : UInt32
  key : Text
deriving DecidableEq

def pskMark : Text := ascii " : PSK \""

/-- A line with two addresses and a key, which ends at the next quote. -/
def readSecret (line : Text) : Option Secret :=
  let local_ := line.takeWhile (· ≠ 32)
  let rest := (line.dropWhile (· ≠ 32)).drop 1
  let remote := rest.takeWhile (· ≠ 32)
  let rest := rest.dropWhile (· ≠ 32)
  let key := rest.drop pskMark.length
  if pskMark <+: rest ∧ quote ∈ key then do
    return ⟨← parseAddress local_, ← parseAddress remote, key.takeWhile (· ≠ quote)⟩
  else none

def readSecrets (file : Text) : Option (List Secret) :=
  ((file.splitOn lf).filter (· ≠ [])).mapM readSecret

def secretHead (localIp remoteIp : UInt32) : Text :=
  ipToStr localIp ++ 32 :: (ipToStr remoteIp ++ pskMark)

theorem readSecret_head (localIp remoteIp : UInt32) (t : Text) :
    readSecret (secretHead localIp remoteIp ++ t) =
      if quote ∈ t then some ⟨localIp, remoteIp, t.takeWhile (· ≠ quote)⟩ else none := by
  have hblank (ip : UInt32) : 32 ∉ ipToStr ip := not_mem_ipToStr (by decide) (by decide) ip
  have hline : secretHead localIp remoteIp ++ t =
      ipToStr localIp ++ 32 :: (ipToStr remoteIp ++ (pskMark ++ t)) := by
    simp [secretHead]
  have hmark : pskMark ++ t = 32 :: (pskMark.tail ++ t) := rfl
  obtain ⟨hlocal, hrest⟩ := takeWhile_ne_append (hblank localIp)
    (ipToStr remoteIp ++ (pskMark ++ t))
  obtain ⟨hremote, hrest'⟩ := takeWhile_ne_append (hblank remoteIp) (pskMark.tail ++ t)
  rw [← hmark] at hremote hrest'
  rw [hline, readSecret, hlocal, hrest, List.drop_one, List.tail_cons, hremote, hrest',
    List.drop_left]
  simp only [parseAddress_ipToStr, List.prefix_append, true_and]
  rfl

theorem newSecrets_eq (localIp remoteIp : UInt32) (psk : Text) :
    newSecrets localIp remoteIp psk = secretHead localIp remoteIp ++ (psk ++ [quote, lf]) := by
  simp [newSecrets, secretsText, secretHead, pskMark, ascii, quote, lf]

theorem readSecrets_line {line : Text} (h : lf ∉ line) (hne : line ≠ []) (rest : Text) :
    readSecrets (line ++ lf :: rest) =
      (readSecret line).bind fun secret => (readSecrets rest).map (secret :: ·) := by
  rw [readSecrets, List.splitOn_append_cons_self_of_not_mem h,
    List.filter_cons_of_pos (by simpa using hne), List.mapM_cons]
  cases readSecret line with
  | none => rfl
  | some secret =>
    change (readSecrets rest).bind (fun secrets => some (secret :: secrets)) = _
    cases readSecrets rest <;> rfl

theorem lf_not_mem_secretHead (localIp remoteIp : UInt32) :
    lf ∉ secretHead localIp remoteIp := by
  have hmark : OneLine pskMark := by decide
  have hspace : OneLine [32] := by decide
  exact ((oneLine_ipToStr localIp).append
    (hspace.append ((oneLine_ipToStr remoteIp).append hmark))).no_lf

theorem readSecrets_head {t : Text} (h : lf ∉ t) (rest : Text) :
    readSecrets (secretHead localIp remoteIp ++ t ++ lf :: rest) =
      (if quote ∈ t then some ⟨localIp, remoteIp, t.takeWhile (· ≠ quote)⟩ else none).bind
        fun secret => (readSecrets rest).map (secret :: ·) := by
  have hline : lf ∉ secretHead localIp remoteIp ++ t := by
    rw [List.mem_append]
    exact fun hmem => hmem.elim (lf_not_mem_secretHead localIp remoteIp) h
  have hne : secretHead localIp remoteIp ++ t ≠ [] := by simp [secretHead]
  rw [readSecrets_line hline hne, readSecret_head]

theorem readSecrets_newSecrets_of_oneLine (h : lf ∉ psk) :
    readSecrets (newSecrets localIp remoteIp psk) =
      some [⟨localIp, remoteIp, (psk ++ [quote]).takeWhile (· ≠ quote)⟩] := by
  have hline : lf ∉ psk ++ [quote] := by
    rw [List.mem_append]
    exact fun hmem => hmem.elim h (by decide)
  have hfile : secretHead localIp remoteIp ++ (psk ++ [quote, lf]) =
      secretHead localIp remoteIp ++ (psk ++ [quote]) ++ lf :: [] := by
    simp
  rw [newSecrets_eq, hfile, readSecrets_head hline, if_pos (by simp)]
  rfl

theorem readSecrets_newSecrets_of_lf (h : lf ∈ psk) :
    readSecrets (newSecrets localIp remoteIp psk) ≠ some [⟨localIp, remoteIp, psk⟩] := by
  obtain ⟨a, b, hpsk, ha⟩ := List.eq_append_cons_of_mem h
  have hfile : secretHead localIp remoteIp ++ (psk ++ [quote, lf]) =
      secretHead localIp remoteIp ++ a ++ lf :: (b ++ [quote, lf]) := by
    simp [hpsk]
  rw [newSecrets_eq, hfile, readSecrets_head ha]
  intro hread
  obtain ⟨secret, hsecret, hmap⟩ := Option.bind_eq_some_iff.mp hread
  obtain ⟨secrets, -, hcons⟩ := Option.map_eq_some_iff.mp hmap
  have hkey : a.takeWhile (· ≠ quote) = psk := by
    rw [(List.cons.inj hcons).1] at hsecret
    by_cases hquote : quote ∈ a
    · rw [if_pos hquote] at hsecret
      exact congrArg Secret.key (Option.some.inj hsecret)
    · rw [if_neg hquote] at hsecret
      exact absurd hsecret.symm (Option.some_ne_none _)
  have hle := (List.takeWhile_prefix (l := a) (· ≠ quote)).length_le
  rw [hkey, hpsk, List.length_append, List.length_cons] at hle
  omega

theorem readSecrets_newSecrets_iff (localIp remoteIp : UInt32) (psk : Text) :
    readSecrets (newSecrets localIp remoteIp psk) = some [⟨localIp, remoteIp, psk⟩] ↔
      lf ∉ psk ∧ quote ∉ psk := by
  by_cases hlf : lf ∈ psk
  · simp [hlf, readSecrets_newSecrets_of_lf hlf]
  · rw [readSecrets_newSecrets_of_oneLine hlf]
    constructor
    · intro hread
      have hkey : (psk ++ [quote]).takeWhile (· ≠ quote) = psk := by simpa using hread
      refine ⟨hlf, fun hmem => ?_⟩
      rw [← hkey] at hmem
      exact absurd (List.mem_takeWhile_imp hmem) (by simp)
    · intro h
      rw [(takeWhile_ne_append h.2 []).1]

theorem confPath_eq_secretsPath_iff (name : Text) :
    confPath name = secretsPath name ↔ 241 ≤ name.length := by
  have hdir : (ipsecConfDir ++ ascii "/").length = 13 := by decide
  have hlen : (ipsecConfDir ++ ascii "/" ++ name).length = name.length + 13 := by
    rw [List.length_append, hdir, Nat.add_comm]
  rw [confPath, secretsPath, confFile, secretsFile, inPathBuffer, inPathBuffer]
  constructor
  · intro heq
    by_contra hshort
    have hat := congrArg (fun t => t[name.length + 14]?) heq
    simp only [List.getElem?_take, if_pos (by omega : name.length + 14 < 256 - 1)] at hat
    rw [List.getElem?_append_right (by omega), List.getElem?_append_right (by omega), hlen,
      (by omega : name.length + 14 - (name.length + 13) = 1)] at hat
    exact absurd hat (by decide)
  · intro hlong
    have hconf : ascii ".conf" = [46] ++ ascii "conf" := by decide
    have hsecrets : ascii ".secrets" = [46] ++ ascii "secrets" := by decide
    rw [hconf, hsecrets, ← List.append_assoc, ← List.append_assoc]
    have hfull : 256 - 1 ≤ (ipsecConfDir ++ ascii "/" ++ name ++ [46]).length := by
      rw [List.length_append, hlen, List.length_singleton]
      omega
    rw [List.take_append_of_le_length hfull, List.take_append_of_le_length hfull]

theorem lineKind_address (ip : UInt32) (t : Text) : lineKind (ipToStr ip ++ 32 :: t) = .bad := by
  have hspace : 32 ∉ ipToStr ip := not_mem_ipToStr (by decide) (by decide) ip
  have hdot : 46 ∈ ipToStr ip := by simp [ipToStr, inetNtop, CNumber.fmtQuad]
  have hblank : (ipToStr ip ++ 32 :: t).all isspace = false := by
    rw [List.all_append, Bool.and_eq_false_iff]
    exact Or.inl (List.all_eq_false.mpr ⟨46, hdot, by decide⟩)
  have hkeyword : ¬ keyword <+: ipToStr ip ++ 32 :: t := by
    intro h
    obtain ⟨u, hu⟩ := h
    have hconn : keyword ++ u = ascii "conn" ++ 32 :: u := rfl
    have hfirst := (takeWhile_ne_append hspace t).1
    rw [← hu, hconn, (takeWhile_ne_append (by decide) u).1] at hfirst
    have hparse := parseAddress_ipToStr ip
    rw [← hfirst] at hparse
    exact absurd hparse.symm (Option.some_ne_none ip)
  have hindent : (ipToStr ip ++ 32 :: t).head? ≠ some 32 := by
    intro h
    obtain ⟨c, cs, hcs⟩ := List.exists_cons_of_ne_nil (List.ne_nil_of_mem hdot)
    rw [hcs] at h hspace
    exact hspace (Option.some.inj h ▸ List.mem_cons_self)
  rw [lineKind, hblank, if_neg Bool.false_ne_true, if_neg hkeyword, if_neg hindent]

theorem readConf_newSecrets (localIp remoteIp : UInt32) (psk : Text) :
    readConf (newSecrets localIp remoteIp psk) = none := by
  have hlf : lf ∈ ipToStr remoteIp ++ (pskMark ++ (psk ++ [quote, lf])) := by simp
  obtain ⟨line, rest, hsplit, hline⟩ := List.eq_append_cons_of_mem hlf
  have hfile : newSecrets localIp remoteIp psk = ipToStr localIp ++ 32 :: line ++ lf :: rest := by
    rw [newSecrets_eq, secretHead, List.append_assoc, List.append_assoc, List.cons_append,
      List.cons_append, ← hsplit, List.append_assoc]
  have hfirst : lf ∉ ipToStr localIp ++ 32 :: line := by
    simp only [List.mem_append, List.mem_cons]
    exact fun h => h.elim (oneLine_ipToStr localIp).no_lf fun h => h.elim (by decide) hline
  rw [readConf, hfile, List.splitOn_append_cons_self_of_not_mem hfirst]
  exact readSections_bad (lineKind_address localIp line)

/-- What is on the disk reads back as what was asked for. -/
structure ReadsBack (files : Files Text Text) (name : Text) (localIp remoteIp : UInt32)
    (psk : Text) : Prop where
  conf : ∃ l r, parseAddress l = some localIp ∧ parseAddress r = some remoteIp ∧
    (files (confPath name)).bind readConf = some [⟨name, tunnelOptions l r⟩]
  secrets : (files (secretsPath name)).bind readSecrets = some [⟨localIp, remoteIp, psk⟩]

theorem readsBack_of_plain {host : Disk} (h : FirstOpens host) (h' : SecondOpens host)
    (hlen : name.length ≤ 240) (hname : lf ∉ name) (hpsk : lf ∉ psk ∧ quote ∉ psk) :
    ReadsBack (secIpsecCreateTunnel disk (some name) localIp remoteIp (some psk) host).2.env
      name localIp remoteIp psk := by
  have hne : confPath name ≠ secretsPath name := by
    rw [ne_eq, confPath_eq_secretsPath_iff]
    omega
  constructor
  · refine ⟨_, _, parseAddress_ipToStr localIp, parseAddress_ipToStr remoteIp, ?_⟩
    rw [created_conf h h' hne, Option.bind_some, newConf]
    exact readConf_confText_of_oneLine (oneLine_ipToStr localIp) (oneLine_ipToStr remoteIp) hname
  · rw [created_secrets h h', Option.bind_some]
    exact (readSecrets_newSecrets_iff localIp remoteIp psk).mpr hpsk

theorem plain_of_readsBack {host : Disk} (h : FirstOpens host) (h' : SecondOpens host)
    (hread : ReadsBack
      (secIpsecCreateTunnel disk (some name) localIp remoteIp (some psk) host).2.env
      name localIp remoteIp psk) :
    name.length ≤ 240 ∧ lf ∉ name ∧ lf ∉ psk ∧ quote ∉ psk := by
  obtain ⟨l, r, hl, hr, hconf⟩ := hread.conf
  have hsecrets := hread.secrets
  rw [created_secrets h h', Option.bind_some] at hsecrets
  have hpsk := (readSecrets_newSecrets_iff localIp remoteIp psk).mp hsecrets
  have hlen : name.length ≤ 240 := by
    by_contra hlong
    rw [(confPath_eq_secretsPath_iff name).mpr (by omega), created_secrets h h',
      Option.bind_some, readConf_newSecrets] at hconf
    exact absurd hconf.symm (Option.some_ne_none _)
  have hne : confPath name ≠ secretsPath name := by
    rw [ne_eq, confPath_eq_secretsPath_iff]
    omega
  refine ⟨hlen, ?_, hpsk⟩
  rw [created_conf h h' hne, Option.bind_some, newConf] at hconf
  exact no_lf_of_readConf hconf

/-- What a tunnel's files say is what was asked for exactly where one of the files
cannot be opened, or the paths are different and neither the name nor the key ends
its line or the quotation. -/
theorem created_reads_back_iff (name : Text) (localIp remoteIp : UInt32) (psk : Text)
    (host : Disk) :
    let r := secIpsecCreateTunnel disk (some name) localIp remoteIp (some psk) host
    (r.1 = 0 → ReadsBack r.2.env name localIp remoteIp psk) ↔
      ¬ FirstOpens host ∨ ¬ SecondOpens host ∨
        name.length ≤ 240 ∧ lf ∉ name ∧ lf ∉ psk ∧ quote ∉ psk := by
  intro r
  have hfailed : -CStdio.eio ≠ 0 := neg_ne_zero.mpr eio_ne_zero
  by_cases h : FirstOpens host
  · by_cases h' : SecondOpens host
    · have hzero : r.1 = 0 := congrArg Prod.fst (create_done h h')
      simp only [h, h', hzero, not_true, false_or, forall_const]
      constructor
      · exact plain_of_readsBack h h'
      · intro hplain
        obtain ⟨hlen, hname, hpsk⟩ := hplain
        exact readsBack_of_plain h h' hlen hname hpsk
    · have hret : r.1 = -CStdio.eio := congrArg Prod.fst (create_second_refused h h')
      exact iff_of_true (fun hzero => absurd (hret.symm.trans hzero) hfailed) (Or.inr (Or.inl h'))
  · have hret : r.1 = -CStdio.eio := congrArg Prod.fst (create_first_refused h)
    exact iff_of_true (fun hzero => absurd (hret.symm.trans hzero) hfailed) (Or.inl h)

def quotedKey : Text := ascii "se\"cret"

theorem quoted_key_is_cut :
    let r := secIpsecCreateTunnel disk (some (ascii "plant")) 0x0A000001 0x0A000002
      (some quotedKey) emptyDisk
    r.1 = 0 ∧
      (r.2.env (secretsPath (ascii "plant"))).bind readSecrets =
        some [⟨0x0A000001, 0x0A000002, ascii "se"⟩] ∧
      ¬ ReadsBack r.2.env (ascii "plant") 0x0A000001 0x0A000002 quotedKey := by
  intro r
  have hfirst : FirstOpens emptyDisk := rfl
  have hsecond : SecondOpens emptyDisk := rfl
  have hread : (r.2.env (secretsPath (ascii "plant"))).bind readSecrets =
      some [⟨0x0A000001, 0x0A000002, ascii "se"⟩] := by
    change ((secIpsecCreateTunnel disk _ _ _ _ _).2.env _).bind _ = _
    rw [created_secrets hfirst hsecond]
    exact readSecrets_newSecrets_of_oneLine (by decide)
  refine ⟨congrArg Prod.fst (create_done hfirst hsecond), hread, fun h => ?_⟩
  have hsecrets := h.secrets
  rw [hread] at hsecrets
  exact absurd hsecrets (by decide)

end PnetManager.TunnelReading
