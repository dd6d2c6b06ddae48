import BlockStage.Text.Ranges

/-!
# Upper case

Most letters have one upper-case letter at a fixed distance, in runs of neighbours or of every second
code point; some letters become several.
-/

namespace BlockStage.Text

/-- A run of letters `first, first + step, …, last`, whose upper case is `shift` away. -/
structure CaseRun where
  first : Nat
  last : Nat
  step : Nat
  shift : Int

/-- Reads runs. The first number is doubled, and one more if only every second code is in the run. An even last
number is twice the shift, and an odd one twice a shift down, less one. -/
def readCaseRunsFrom (next : Nat) : List Nat → List CaseRun
  | gap :: length :: shift :: rest =>
    let last := next + gap / 2 + length
    ⟨next + gap / 2, last, gap % 2 + 1, if shift % 2 = 0 then shift / 2 else -((shift + 1) / 2)⟩ ::
      readCaseRunsFrom (last + 1) rest
  | _ => []

def readCaseRuns (s : String) : List CaseRun := readCaseRunsFrom 0 (tableNumbers s)

/-- Reads code points, given by the gaps between them, each with two or three codes that it becomes. -/
def readMappingsFrom (next : Nat) : List Nat → List (Nat × List Nat)
  | gap :: a :: b :: c :: rest =>
    (next + gap, if c = 0 then [a, b] else [a, b, c]) :: readMappingsFrom (next + gap + 1) rest
  | _ => []

def caseRuns : List CaseRun :=
  readCaseRuns "W-#qEPK9P6%)P6##T9&P%$%#Y:&'$(1$(P#$('$##]>##WI(%$'#$)#$-#$'#S5)#$##V5)#TK('$'#$+#$
'#$*%$'#$)#$%#Q;-#$##&%#$##&%#$##&&1$##R<&3$'#$##&%#$*I$*3$3#$'$Zb=%#$,+$##Za)##Za###Za'##X:##X2%$X0
%#X*%#X,##PPo=)#X0##PPo5%#X4%#PPmG##PPo'%#X8##X<##PPo'##Z_1##PPnM'#X<%#Z_=##X@'#XB1#Z^='#XJ%#PPo%##X
J)#PPmK##XJ##R(#$XH##R,-#XL7#PPlM##PPlGV;#RGPN%$)#$)%TKQ'#PB#%P@%3P6##P4#+P6##QJ#$QH%#QF##Q<)#Q(##Q
6##2&9$##RJ##R>##1##T.%#S2'#$'#$Q3BP6#2R>&C$6P+$(/$##@&Q)$Q-HQ*RQ1MRVC'%RVCr;(2Q]##Uj.##Uj,##UiF#$Ui
B##UiD##Ui6##UfL##u[#YK#u_#)#SP3C#ua3T,R3$-#Q@.Q)$#*33(37*33*33(3:)33*33$R3#&RK#$S;#$TG#$T'#$TCQ/$3
;#Vj8E$3?$3)#1`3#P.P92B+#$v1<P*Py?P&Q*%#$)#Za@##Za:&'$/#$'#$8Q-$4%$+#$;HVm*%#Vm*-#Vm*ppJP#$J=$U*/$*P
3$8%$(+$+#$,%$##Q+(5$:1$,%$/#$.%$P/#$w'#z*P/PFyR:fiA<P6P[IJPFU+FPFV%-PD%1PD%)PD%$PDPv=P)QJRW1BP6gTKB
P6qW#DP:"

def caseExpansions : List (Nat × List Nat) :=
  readMappingsFrom 0 (tableNumbers "T&PJPJ#Q4_KPE#REPAaC#X6dLa?a8Be,a?a8YAn0nM#R`EP?b<##PKa?##PNaA##
Q$aA##P8_M#S(e,aJ#$e,aJa7$e,aJa8$e,aJbMLSW;dL##SW<dL##SW=dL##SW>dL##SW?dL##SW@dL##SWAdL##SWBdL##SW;d
L##SW<dL##SW=dL##SW>dL##SW?dL##SW@dL##SWAdL##SWBdL##SX/dL##SX0dL##SX1dL##SX2dL##SX3dL##SX4dL##SX5dL#
#SX6dL##SX/dL##SX0dL##SX1dL##SX2dL##SX3dL##SX4dL##SX5dL##SX6dL##SYCdL##SYDdL##SYEdL##SYFdL##SYGdL##S
YHdL##SYIdL##SYJdL##SYCdL##SYDdL##SYEdL##SYFdL##SYGdL##SYHdL##SYIdL##SYJdL#%S[=dL##dDdL##d9dL#$dDbM#
#dDbMdL'dDdL#(S[MdL##dJdL##d<dL#$dJbM##dJbMdL'dJdL#(dLa?a7#dLa?a8%dLbM##dLa?bM-e,a?a7#e,a?a8#e(aJ#$e
,bM##e,a?bM-S^%dL##e0dL##dBdL#$e0bM##e0bMdL'e0dL#mk.P=P=##P=P@##P=PC##P=P=P@#P=P=PC#PJPK##PJPK#/n?nA
##n?n0##n?n6##nInA##n?n8#")

def CaseRun.holds (r : CaseRun) (code : Nat) : Bool :=
  r.first ≤ code && code ≤ r.last && (code - r.first) % r.step == 0

/-- Where the runs take a character, if one of them holds it. -/
def shifted? (runs : List CaseRun) (c : Char) : Option Char :=
  (runs.find? (·.holds c.toNat)).map fun r => Char.ofNat (c.toNat + r.shift : Int).toNat

/-- The upper case of a letter beyond ASCII. -/
def raised? (c : Char) : Option (List Char) :=
  ((caseExpansions.lookup c.toNat).map (·.map Char.ofNat)).or ((shifted? caseRuns c).map ([·]))

def upperChar (c : Char) : List Char :=
  if c.toNat < 128 then [c.toUpper] else (raised? c).getD [c]

/-- `str.upper` -/
def upper (s : String) : String := String.ofList (s.toList.flatMap upperChar)

end BlockStage.Text
