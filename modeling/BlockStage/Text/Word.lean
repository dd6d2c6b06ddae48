import BlockStage.Text.Ranges

/-!
# Words

A word is a row of letters, digits and underscores that does not start with a digit. The marks that
belong to letters count as digits do.
-/

namespace BlockStage.Text

def wordStartRanges : List (Nat × Nat) :=
  readRanges "RI#-#'#(9$A$Y4'.1'*#$#QL'$$&%$#)#$%$#$6$PI$R)+RD$H%#)KP>='&P$MF$$Q-$#2$*$-%%#3#$@@Q#.#
;C,$'#(8'#,#&#:;*-(:$(4LP1P,&#5#*,22'*%$%8$)$#&&&#3#0$$%1$-#+('$%8$)$$$$$$B&$#6%3+$%$8$)$$$'&#5#2$:#
.*%$%8$)$$$'&#A$$%2#4#$(&%$&&$$#$$&$&%&.9#P+*$%$9$2&#=%%#%$A#'*$%$9$,$'&#B$$$2$4+$%$K%#3#(%+%;((4&:$
+$#%)P1P&$#0)P1$$#$'$:$#$,$#-#%'$#8&C#P6*$F>'Q>M7#3('&&#&$*%'//#4H$#(#%M$V;$&%)$#$&%K$&%C$&%)$#$&%1$
P/$&%P9H23PL%(&^&%3$<(PA&-*405141/$%2P*F#'#P:Q#*K$#(P<-AP(@%'.N'<P-9,P+PI#Q(P%4*P-@0$-N=FL%-F%+*M%%L
&$($$&#(S2P7U0%(%H%(%*$#$#$#$A%P+$)$#&%$)&&%('/(%$)Q?#0#3/Q0#'#%,$#%()#$#$#$2%&(''#4KPaJT+)&&$/H$#(#
%P.*#39,)$)$)$)$)$)$)$)[9%<+*'%''PL)%$Q$$&(M$Q(4BP'2Z?RdFP7Zn;P:P$%U'&2-$7P%3A%PFJ+%Q1%P6($$#$';2$%$
&$9@P*1P(P5(&#$$.>-9<?*P%?#3'$,-'$K:%$*79&#&P($#&$%'%#$#;%%-*%/(%(%(,)$)$M$0)Q=@TvJ/9'P'Sd'W0%Q4I)/'
(#$,$/$'$#$$$$$Q6DR))SL5P6%P,K,QB#$#&#$#$#$#$QHG<)<.P.%A&(%(%(%%F.$<$5$$$1%0EQEP<P+U&?&P'P&B0@(H-@%F
'*$'MR<5F'F'J+P*/-$1$)$$$-$1$)$$P:V%,8-*;($L$+P<(%#$N$$&#%9-9,AP85$$-8-<P=P.)$P7#2&$%$?M?&?F*$>>P,-8
-504Q9P?P.P)0P)0FVKL)$PE?-#+8M4P%7>9/P+P0$%#0P#C;=F@#%#+E&#/P&1&8#$#F4$;PK)$#$&$1$,*P%I*%$%8$)$$$'&#
5#/'R=P+5&7%AP&7$$#S+P%L&GP&7#P2M0#P>=H)S,NQ?P6B*%#%*$$$:2#$#Q)*%I3#$#?#-J*#8#.P$6#5P?TN+$G4#P(@Q;)$
$$H8#<($$$B1#V65S0#PFdLQ1Q94S6P`KQ+2h1QU$]-Sh,[K*A4PE4@5P&3&B7(5_?P6QKPA(#P9/P7$$#?RY6+l(M+So&&$)$$$
U=P$%4&+WNPX7Q5(/&+*,RV)PK$P=$$%#%$%&$.$#$)$P7$&%*$)$>$&$'$#&)$VB%;$;$A$;$A$;$A$;$A$;$*yKAYLP#-)3#V0
@5NlG)$&$$$1$S7P2P:*#k3&$=$$$#%#$,$&$#$#)#'#$#$#$%$$$#%#$#$#$#$#$$$#%&$)$&$&$#$,$3(%$'$3Q^7fhJCQW3*T
$%RPL1RxGPk:[0r-Qj-"

def wordPartRanges : List (Nat × Nat) :=
  readRanges "S*#]/Q::#TB'U$P#$#$$$$$#P?-P'A)#Q0)%(%$$&%,:#A=Q&-2,D+,#;&$+$%$'N%P3*M:$CP-%$4$)-$%,4%
P/#$)%$%%,#-$%,1#%%P/#$''$%%&#7.&#.%P/#$*$%$%7$%,-($%P/#$)%$%%*%-$%,5#P2'&%$&,#1,3'P.#$)$%$&*$.$%,4%
P/#$)$%$&*$.$%,3&P.$$)$%$&,#-$%,4%P=#'($#$*),%$P4#$*/*$,PN#$,.(%,P5$),.#$#$#'$P(6$$(-$F,#Q/6$,/&'%$%
%)&&0.$1_N%,+e'&?%@$A$P7B,#%,D%$-R.#QA.'.-,QK-P3'P0,$?%-),90$2P('P&3.,4+/%A/%,P#0P'6+,),QA%$7'#)#%%S
9P6]&$6#QF/'#&.PjE%R,#Q+B[=(Q4$_vD,P<#',C$PG$U+#&#'#:''#PJ$P)4-,)40-?*</P#&P&02,.#-,P&0/#+$%,D%P)#$%
%$($$#L'($T3*$$%,Yn7#`D232&$;%S3,H#Q)$]D#T)#R4'U@,o&%$$(&K%'#RD$]$&+,W4$R8-P(&QE%P,1B-%$-&P$-*#P$,)%
G0$,($P##/%P'0+&$.PI.)#R?.(,)&P.$$)%$%%,#-$%)&'S34,,'#PH6/,SH)%+>$PI32,PH/+,PJ1',T91RD,P=($$%&$#$$/,
QB)%)&#?,K)$&+#,-P%2X,*$*3,P/8$0QE(&#$$$)$#+,P''$$$'+,V8&YWD,PM,I'P2)<,g$#$P-*&PH#.$Y`&$QdLP$%9[1'&(
+*%)A&R3%p,P(Z?P-'P(+#1#9'$1nK)$3%)$$$'TL),,W'#P40qM)Q8)(,Qf),Xm^AT6"

def isWordStart (c : Char) : Bool :=
  c.isAlpha || c == '_' || (128 ≤ c.toNat && inRanges wordStartRanges c.toNat)

def isWordPart (c : Char) : Bool :=
  isWordStart c || c.isDigit || (128 ≤ c.toNat && inRanges wordPartRanges c.toNat)

/-- `str.isidentifier` -/
def isWord : List Char → Bool
  | [] => false
  | c :: rest => isWordStart c && rest.all isWordPart

end BlockStage.Text
