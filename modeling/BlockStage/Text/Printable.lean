import BlockStage.Text.Ranges

/-!
# Printable characters

Controls, format marks, separators but the space, private and unassigned code points are not printable.
-/

namespace BlockStage.Text

def hiddenRanges : List (Nat × Nat) :=
  readRanges "#BQ*D/#`-$)&*#$#7#X$#I$P)$&#P.*>&)39#S3#P'$P2$Q00P2$P($2#?$$#.'B+PA#R@#+$%$9#*#$%'$,$%
$'*$&%#($<$&#)&%$9#*#%#%#%$$#(&%$&%$)'#$)4,&#,#&#9#*#%#($-#&#&$$1'$/)*#&#+$%$9#*#%#($,$%$&)&&%#($5,
%#)%&#'%%#$#%%%%&%/&(%&#'$$($08'0#&#:#3$,#&#')%#&$$$'$-)9#&#:#-#($,#&#')%(%#'$-#%/0#&#P*#&#)&3$=#&#5
%;#,#$$*%$&)#$#+(-$&.P1&@G%#$#(#;#$#:$(#$#)$-$'BP?#G&J#G#2#0GS9#$'$$W<#'$*#$#'$L#'$D#'$*#$#'$2#P0#'$
P:$C%=(PM$)$^;#?%Q$)9+;+7.0#&#%.Q)$-(-(1#.(Q$)N'P=,B#/&/&$%M$(-P#&=(.%P5$P8#@$.(-(1$BP'PD%P&#Q?*P3%2
%P3)N$.*N'[)$)$I$)$+#$#$#$#B$P,#2#1$)#6$&#,3;*P&3%$>#0%D1D1R+&_&;.7y+$C#VL'P$#$'$$P/)%0;+*#*#*#*#*#
*#*#*#QID=#Q$.SI</'P6#PM$Q2'N#Q)#PK.P&#_dD%P.+VK6S+*S>'%#$#(:P2%-(P/*P=*/(Q?-A%PE#.&D#P.+1$-$Q2:?,)$
)$)+*#*#P3&QI$-(TvK.:&P(Sd&W1$Q5H*.('=#(#$#%#%#QH2Y($P-)$BM(P*#6#'&(#R&&S1%)$)$)$&%*#*/%$/#=#6#%#2$1
DQF'&&P$%Q##0%$P%P%QL@%P(1?&G+A'N'A#H&1LR=$-(G&G&K*P+-/#2#*#%#.#2#*#%P9V&+9,+:)#M#,P;)$$#P##%%$$:#P?
*,P&6#%'D%>'$P6P/&7$P)#%'+#&#@$&&-),)P7BJ&/+P-%@$>'=)'.*PFP@P-P*/P*)P%*-U@B#M#&$%PDK*M8=H?6:+PE&G+P
5#(/<)-(P,#5*J+Q+#7-5#P#P7*#$#'#2#.(P2'-('#+$%$9#*#%#(#-$%$&$$($'*$*%(R)Q'#(@P?*-RDP-$IDP<--(05P1(-P
,>$2&:S+P3Q.PJ.+$$$+#%#A#%$/+-P<+$P%$.=P?*PJ/P@TM,#P$#1,@%C$9#1P?*#%#P#%$#%#,*-()#%#H#%#))-V$<S)$1P)
/dNQ0Q:#(-S7P`JQ./h2QU#].Sh+[L)B#-&PH#-(A$),P=,-#*#8'6_>Q&Q/PB&P0)4P6(-%0RY7*l)L,So%'#*#%#U>P#&3'*X#
PX6Q6'0%,)-$'QdJP%$:+Q?P2T=,J$PA*Q;7P=R87.PN+<R%PL#P>#%$$$%$'#/#$#*#P8#'$+#*#?#'#(#$%*#VC$U?$_M1(#2i
&BT'*#4$*#%#(SGP$%1$-&%V.B3P1'$l2*#'#%#2#S8$3KPC&-&%aGP;PBP4S4'#>#%#$$$#-#'#$#$($&$#$#$#&#%#$$$#$#$#
$#$#%#$$'#*#'#'#$#-#4'&#(#4P*%U(P#&Q/.2$2#2#H,RMP.@/P#&,)%0)R8f3'3%0%Q?.Q$)/&$1/&P/*-(K*A$%PDVC.1$(%
(%*+@%.'),-(+**+R2#P.G-g4fhKBQW4)T%$RPM0RxHPk9[1r,Qj.Wrg;T7Qal&"

/-- `str.isprintable` -/
def isPrintable (c : Char) : Bool :=
  if c.toNat < 127 then 32 ≤ c.toNat else !inRanges hiddenRanges c.toNat

end BlockStage.Text
