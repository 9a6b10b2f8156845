/-!
# The table of the names of characters
-/

namespace SkillKit.Text.CharacterName

/-- The names of the characters of Unicode 14, without the ideographs and the Hangul syllables,
as a packed tree. -/
def table : String := "
wa9i/Nd_A<@ki*:V;A5NJs*r[BGyC:)ahaB]tqakA^6ou0nKI;^5oPdrDhjT7KY5IB,Hs-Q5xNX.%F6*,ofu.6**:nGb:C4=8Z+
t*x$BgSyBM0p=if=(vM=9eGO@OKi%)jWBhcX18VBKPxNn4:ox5QTL*HNmWnYLvXf`lzQSU^FE6aG_D$:cG'U.S_7ciOb`S!F2N-
.JfVejjS=To>FQ7t451gC2`i01!Bu>A;TCYAc<;?q'K_;+f2RaQdo8Q1+fqF#3M*AO/Ng#A9f(Y%nMRUJ:2>L45N++F70k@j).z
b:=@g(O@f]MrKNGg#L3m0LQUUi6oogCTAWq+_`w7mQYJX>zQ2.#,sC1N:(Bm=#RoY]UqI:4-JY5mv[[[9;5'cc@3w*wjI*oSOe6
@#@x.)<Em>fnrFXoRvZyilZGOz7L&$e7+Ew-=ZH<8p1Hh>m^69OR]TGJ,ts=&v@/b2=T_K(45x4Wbve_,W<z&Vz9&U':^f(miGX
u0QI@z?91Q(UcrAh`3^/zmAk<<pxQl/XrgcFP1>df-b,>Y^teNOaHlnTZTjh79kKc?fl+S&LlG^%gy6ShW0W[S&j9tHJ!N.j/py
*V9CbBJv)le53%3n0]b'V8Qwj-[;ijp%D%3Y*,N;zi_e2vM)rT!Q,_043*AGh7o*Zd6^?2.M+REr)TcFFqv<2:m[[(!r`60[YWU
eyYC2]x/<-r8(e.^f=5AigCwLSU!Nr4mexx6_J8Kegj4Ngzs[jbK7+evYv7UY*`8:s@(@sn8Om=R63sWqhmo^H)6crGkdn*<ym<
JZ+q/F'VqW7?jd8QRYrhdgQ?qAf:?$fmd&<n^!+!Onf<347WBO#DZc3-B`;C38N/+%ywQUHeO0!g5r-eqh'%d*C^'XRF69F'@>H
q7;/mcO[R+u$z]c%d3YN&$mT6jQYn3$f/tC@Vtc^5uCs(.i:^0t05,,tC,;wb_,_5K'-]eu82?)pHc%_GHPzy9B'blYj$e0%'Nc
GPavmgmw>2Lbh^m2.a9ge[m3iSmJay6DgEia!m5;MkjvHw>v(8(as'EHwfH:H0LXZ00_Yw9J/N7*z[_Pb_Gf%;Cc+!z-NGs_cR-
fDv_I82#-5;UYI5w8'^Q)+/cCy4jM4!OPIg`6GO$(^oF$l:?saR(+^Dp'#tg56K#N*BO+uJ14wcCv9sK[5-z`(vmm[Uq<Sr6-@)
I@fMfqYCVVWEP+fmd@Cvab*y5HFBa;qCG6lh!9Eb0X0/!y;H>c67,%t-pj`o,<&6>bxp!s0rZn^KIcgK*q@#tFe>@5YN`7k8fZd
0y5u%Ech&+^Fsc`BGZfEx;qQpYG>3LG&+*v32]#(A2Wa@Py.?/md2e9V%:dF>j0sv'-H>;%4)'U)!N2fL>d-ByIdV(KK`N1U2M)
--/QC:gtOXgdF/xdPd=nBaam:PYKwLlIZA2eJ^]Sg('9MEu/:-8mQZj>;:eb<@z@hS0a-&qK8gfcB?3xJ72g>rBDe2'MJM?c0j&
1tjiF1yGoipvfkP&aF$EKWPo'S<cnvp(*%v9HeB2r7[S$rb_=)`9/.`-M3kai8eWAxt*X8a3k9.EQZ79TF)[#X*D:s<[5.h?dRd
r4Rr&Q1Hz^u-yMeO)'ZrH]Ax$N3$03NKCqG;R75$4&<s32+Kb0Wu#.zJgjsY'<na'_AIMt:BK<X(sFMj_9S%DL8lf$sdG1DtTUg
Un6K?O^@fQSp<&=qhuw,2z!id,`o`w7)[4I$wOuJ6Hfdwy2`&WW5A_cMbfI(qOg:bn@Uc0D$ma(#H8@!Od,muKyzp$c4-Z21-ZR
]1M]n9%qYM2B&So5ocbw`dw?Y_o:cxZBUI6I9RLQ1$uwZ5*LZ#E+VjJZ6i7lRjOaG^LUg:ovd?XJ9?ru%?vBQIRH]'sh?eCU.6w
=2<SF;K:.3/'!0_qD^f-cvNb4lji8IY7-g?'G.`rX3Gx_]Q^'BRiF.cxpfQT1!zzCqp8xW*11>.VBFV[_XW@;U'PG1)#soiwv;P
6.tSW4I/mvJt@Sg%s)>X5N`z'Gz><@3UIg@jsf9o?sXMFo385d.Z`B`@FV>:[xdjlu6Yxzc>!0=Ngm+fT<74]gj9,On%m&Y4+2f
7zo@Np.`g*e%njYr[VQtN-bv<,tPTN!ig-gI0`sUz1ZS9HwI(D4o!&IMdQA!DS[?mFe).ia$J.xG?5x@DuE3]XXHPPUAHQio,WR
HY)r)t%v2#FWn8O+V9DB#8jL`eAU0i$Xf+Mu::>C+QXxQY%H4wDv@[eV^u$rg_Us7qM_2xmG[N6.-ngK6C+]$j0GEo,VuFnxNyG
Y.oE[uI!3kXgyw`-N%hm@tv09gK:>FSqAoQ;nx:sG9St'PFtq6(Zi)['280IiG806kb9TL1x3WO_#w<a9/=dXXWhz:5Cpyrr<x^
SGD+DI+v1&bHhn.p:Y+pp)-W0EBjEG9ZhBh^vt.a^_$QhCKYXG!Ifm4kncb4s%ZJo&h)si0^AUSK,(J%h`sjc8rgQ'xyW+:5C&f
([@C6JJluUh.jH+`fKL-Vt@g*:q#:6DC&LR?(S&;)W<Mxu<G;UZuGXJ[qt1P?bSTuD`[P>NV;+nM05:&sfB&^I)cNkGJM7#HmwW
FCmqKzO5y;PxI2U)pp;o(C&?+4J`]RLpxWKau@A&N&3hO4(1[ra&:yw2f73;/n&HkVdZrr(egfWtxPZL!omsCVG,Dkrcvdrbm-1
4WE?WN*w2cv9Zp$GO57x%X2HCC#zRe(lm?8HF*mRoIg$:dE278@^e[]_Zz*YJlD1R(GaY^<yLPV3TChJ,4*j`tFyj,E.Aig^TTr
L4yVkePh&7/,yb7H!`#ti*;+jeRg=A;Pkh-JI6_h9BxsE#iuD1b1M3EBR`&<5C#+%URNl:0w+wLN8pJ'7ZRN>&D3M@e^04%>'^i
4^Qw.OEWnHjF4t=g*1(!u$;C0DFp&dxL^r4Vu>7C1dOxEF8p1ugtbR)h>bn%j<JVhYuIQYF;P=AeMN<F'hdy%_Co3(MB[p/J)Vx
-)e(>)ni:IFRdgEb_5MxiU2H4.TFz.kQTkd5t8K.lfd81B$wmW/ii0K+^`gEf0Ovq>,1[3,GP^*Cy@BRx!`5'Z0GBVqs5VFc=.a
p3Oi<x2wzjp($%IBw:y3)O2Ssf$[^Xl@Y=og1`eEn06fbBdVDHwD(+Fy$Vdy1IQ!myme,lKs$]&]mn)Wnl,'lFkT%Khge)PCQmz
U5F8MB8>)tF9SK4p+I,UAqHUnzE*'YSlJSPC,eDaf_qc&Pz<DOcqZMv?+s,#7BD<]ANiyJ'`*[=6+DpG#aW$S&LU3C^ovkJ!y-=
LP#A2QQMX9#9AEJW.J#6Vly0'tgh>F0iNO=s.r@ZuZvwmfZT#zM4l33zHxY1?@+(z%+1u858RJ.^ZTOp8,yDC%D)bK5Se0^%66R
28[D_.Rl,Vc<$o4[R$wQK&3:d^%p<$4o,!ch]bXp=mGg5PK(wD,R5L2_46L#077OS=JA.4S,cJk.c9Pr)]-so/lQIzTO<<:;8X-
9TBubeG*6O(TgP=dg@1v_8t0'yCc8y6IR;5nx]gJ^?iBQ,+-!P*8NfXi>UJm'@.MMw!xn)#=dgMIlIdVz:SCMVOoPKzB%YbcN_i
T4ZY9<pc#1JL4>hQ+wR6FYMWZ`]uz*C9j[z08lPQDoX]]mI]+.3]@))[pcpD@4-l_EB?i%:fRn=46.T:_pVT6=`</5T?HE`=asa
fV=%>terqlwj])G#]a/-l^3NjfomIh)_h*qtf?fbR6PRC&2hI$AFyHd^Lm0KL6&PPbXnj?tkQRwJU]9U*x_eu4Uu1ZSxn&wEdyA
gv7ycc:sKM;D]kO8,FcO@j]@d!*jeyN%%Flsnm1h-WJ&FG<(%<^Zux71_^mHKHnLP7E`>;Rh2`p%rA:uWyJo[./_E/*Ls9(W?KJ
2?wWzNu'k>RKD&ByxK<:qQ;:/COU*YuUx/$9L!Gdd38v!(2LEvQZlTcR$:MnL6u->^&k5Jg?7J)4GhxqVoJ$hffWyDA.ZYh=XT.
mChcs9qI%FdRA.+zhse2x%J`b-DN`v)n!sT'7DTi`!j:_=XafOLZE_2`M`99rt-]nQ+i-j8/eyTFm+1o$T%qKvKg^*iI?H&S/]^
E>sjl@$+.5z%jt!gs/JdWRn@LUqkz[x$AOp6w:(Np0zS<PU*rqQijq?TT#N=)8n4'oxwZ/*SSTvobAt`,`H3[XC^%nqJ:81q+y@
$pd3*d9iOD`XN6h'gBU@d%*Aede^Ps]xc5+aMf(^n1,3;jS`f^<ho'=ybCA(<d'<m,'y;n<e9=,[*aN#[Y7FD+0j_86]^Qlr;Z9
8`H&N9,gX83r8`T(GP`Mp``z$dCgq%l5rk2_pKAxbY^3`oCADBj[.w2fy0k*st&-AizM(#[?9`*aA%Tx;$fAaWvi=Z0jX.Qf=Lo
SQPhH=y9f?k&G61:VWKZb9g!CUB5I.3oWOKo8f']j]B;^lS7nzbM:ySyrf7Z(#+5raWuTE[-407my#ELNK0r>Ulg3yf<Vgr%%RR
s7//qU]?F`m)Ec.^RsB'd]L^M_rSo&.41:!7eSF(B)AUX9a*PH*JaF5AZUQYB`(nS#H>duwCW*Uo,P21P-cM4bVdUJG)BFFjzLj
Lu1P;&+9+lK=esEr*MyMBAdQi8VBRy/o$rr:nfMpr?z7Dlw*&XnmNNaI9'itWa.R7$tY>$+qRHqX_z[xGcy$@Z88uH=y;+p.!U9
Px7D1>2`Mah4]NQ-E?hI4&I56w#wb*/<=RMKnB6%V4@;6Ldysds-qFs1K&ww^/VQHTQ'3YQQF2_eb]5&1'r[UuM?>KEYe1XXD=C
2lZKCM)IomV`HtqcE3ylEZ]802r1hzU.NDI,KR:8pz2R1=+``9d-rFKL^5je]$*Ao(ztc3dssw.l=wkc_R%B:#],l^Z[fZ:=_3u
8,:[zW?FZ*qsARh/!`W6Cjuh)Mve.uZ]0tD3W%qr-_/b)bj9-S7w!Plh.Awe&$tXnx)5?r&L`Y%YETiicIh2xsQ:uRZD8f0z+Ck
bw97sT>*&[p!A^S8bmgAvg;X.3wxmYDMDJI4v_8$PHpJs4<i'6lMEk/3cIAc/O3W+&qr'#pmNa-jfbHG/'C;@U!zIw@^*TneYW?
)DvoYeHZ=nca2bJ7-pYepr>Uy81jH(@GU)q:7S$agCv>uW2Za>t`VYRsK7E+%wB$U*ApUT`L2fOaN<D8iE%'Pg1QDnZ7ZURNsS,
,m+(4sm%N06(uU/tv5,8INMTeos,xt^?+dW$X4aL=?J/NVO[+ujaWokz20m_2[BL]]n9Rr&(M+JM.c7uBBEx<+`qyRbk'fNFqGj
L6v@g(@IX<MtOdCiFy4QD?x.nu29Y3M6P6p-v4ACA@$iCB_('MyQx*n-P-9EKdP[h^<C[Ab*<v`+92vb,s#QnGq/R+7DRn/4%NV
GpW0Q9.hpQt2JJ=`jb9xlIcr>Bw*y%60pLm3jV`lW5hG]aS@AKX]Ol6$A.(yoFs^Z_Q1,XcA)XU^e-I+'vQ>*<5&rBau:vM&_-y
jhblHKK*c2/8LpD$Yz5d/wa4)<T6)'b1V,a/@_*KI!0]Fd(8^]bSgqWA;35P[!zWxN-*#Bwqmg=F,[pHX.8-PX#<tC4'a-GD`Uf
mxgXh'e[N9$csz3J$3[PGv11p!U3'H%7SG6P<civxjNEsb#1E_?e5Wbm28gd<]U-zG>L*wV7M#PX`0hElLKm692DQmqM@$KlN6b
1Q1X7!J!=E$*QyF`V*MDS)HA/*%:lgMq(y^9RVY3dLq&`ojM>/eO:V!qI$fUn:MpETJVj,S:vwdNQ68bSxOh/h-9/Iu!f<%RBnl
=X+nU7D%qT>PP0w_CSLiGoVB@xvG8r,4f5ftucgt+u2Y[q3.@eEY!spa_8@3VB!1pCCF!EPv*#+%XSoid*9GGJALz:u6invN0EG
bDq^cL-#<w$&$DC!l>Q8tEE))BLhcks@6V-X+NrE>2ubBPGmhKaCE>IaQ8]62zZ<#-X#ga.bPRpw=x+k>I)yt[MEvMKj;lm$b^^
GceCVK&([fUZ0fsAY6fkV<GB#>_iZPCO`q+c>7!<bqO_?lnR*Y7!mn25ACOwUk7+:_fp,Bt3tY^.)Exni>08?#l:3k@]D[ILrz?
#jENbWRrCN??5?cH^>q1Uu<VfXk^p]1MKX3dF)]#zl<Drhp=*`aW]2'=G1#iuLvH7GBW#;/K`GcMU/w4'-_jl0JbgCvFMM4qdvu
e<q+<U[HW)j]Tt11(P[Lp:<[FOQl'*s-[i=P'xo@C2x7$u`#(YaT'MSQo#.M$a/>oaC+0dK+C-H6GRFB#M!e=Pn,(?7ssDzV3DT
Q%_[=qYpX<,B^0Fi1>N?WbUeJG1Uft#aevcT9c0$[#V>1(peF!'J,0aA`9TSHQ:mg:biO[4V;P7?YTR<nvT8ewgG^s^pX4WGQ5p
;dF;5w)/mWOWA!3:4xEC(e6y=B5<QV3'rX`FLRg!$)-(BH-O;Nt-Ye:9kZB][vux&@c?1Uu7FXC_ich!0']_bj1Bio]HP!>UiEx
)9rZ1:WbD[?4ZQ%9S$x9nPHu&`PDp^bMom(@<W-l^X^tDk;-W6Yz6@pmi(+Q=o[4)tL&^W$q]VS6&I`T<6)$i'%Pmqe?ZZbnzf;
Ki^+s!:nvSx#&eS:Sh*ArWeCedtX/U>#MLNSDT;smb5Ag!Kk!KroL&c[H>)x^'4Dy!:opI7Yr(&&)banjtk+yHbSp)1bSn11ygX
1*Th4?fobsD<p;dFQjYAI,Ft>^^,7xwo%@=0o%t-(%FA#zDv!MY38GO(>4IcfS#ZZ#dl$RJd4X3=_bol%%m+B&#zbkYoT),RoNe
$H$7-i$6^[4E3GDJdKB!b_]UZrC/`n@0WAYC/8hTR'*#?ywmkC)n`GaO]P<eq77oSNV4aI)+Z'kJhd1VsX:X`5$w'qA.t#3AEsr
Ym36`>6%GhD'=J0/w4U]92(Id/5$)=PvoyASb]>a-1.2Rgna3o,1:A+uECmu]nrST>4Vsb2VlRSFUbZ=/P3L`?+vtDARF.atXw`
J9']dR')[*&#13&[0)8UGi+GLQ^wVqy*$>yA^&aQ(4hE,t7`17$qAQRWhF$dUp2dL[k-v2U4X1-,azRm?u`_GUl7To*:Z;3Gl0b
T%N]Ak.hp+FpaS'9%-ud7]V-]i:HNT53STt@[hZ;peQbitnOuST3477Ir$THEIn9yJS7D<!-s9O2%#*BK@Mmgqu4AE$r!V@!T9t
u]XjOX)+QGFRW*x5Ncv,6_M[(G;OS@W&N,kX9IZv5sJZ:x'?^UW>(k9k;)5>Q%1(xG/]&0JSw3L;*;+jX&sWQ1WA@(1HTz.K^v3
m>KRXTS_Wr!oTsD/Hj1GUA,!5ryGvt*3^cjR.wP5gF`!uxj>JNENq^91A^Z`[^6*rQL_5sZ;,JR_51hx)w`oELc%PaEnxmPiW8.
uC[YLDu8=Lg+$5_Nc!^/OPom9.S1JD:(^u'1Yz^1L?zD!z38Omd#T<*0*<S<ay?M:.&le`lmu-<Mts/2[l%Vu730Wo6@KvTmEu]
&whZiH=zrrxFXD,?p:X5nOBf?UlA4p?WoQAJ1qs.$4on%NLnAN>Ui=!$TLNu2X<(7-trTh92_VaVUKFc@j5rOhbBq0c6k5sITQ%
7K.>/,nUi]+Z[FQqNKtCpth,4dqrt$y?__LlYg;!'y%xQgMeK.PSZ4K[j`lf]z]Cq(T&DpV`cy?mgq_tZ5da0/'rsNXWpatg6MV
I2RPRbq.pD-T@1u.z1JrijqrF2G<!ra'(v2j%NyYO>[[eHzoMZKz58Hy]?A7>6U0&nphVNhj+6dv`G^^PvA+re,P_ySf70Eb_Hr
ml,0=>s8B#dpA]8.J(`^R0(C/lXYV3%o%AJbodZ$ep/<q+4t>f]0k$1le&DViD,JLV(mFl]wm9o[>7WiG9xQV,V.;G^31DtzNR<
ec5'.PqT?`#T7aE+t7O?tsSjw;WwU4]t<^19Cp+JBG>tP4NnY<=j!1DbOGS9`-6bZg.5<]!0-T%+W4<!+^KRtc9lIYe238?V$k5
-e@I7-0`UY_h?#Y=avLg)YD$$]7EgY.`Bjyf^kG_-I<ovpRP93(HQJYf+g?=BT:Q3_f%2wAWYJ]EbI_U@wOYp1cwr;6'a;/ngJ:
wc/ft_H_T+/dtB7i[m'._ThR9#m_uF*N=IKIam+@pI&D?)ob;psB%lfovB2ya!M_@F,g!O`QvcFFRUp%Bpc=.CB=4bsg)i?Me@A
h%=Cyl#oT6(%I=qt]M[D%BkSC'WpPu!2ZJUn*m2(CY,e(ANOp)O#pD2J@<ZU[]&)@rCVfgCntJ;KW8.%rlY<TO<p<dHu.TYxyTl
7nd7<C-&#dp,we6JRCi/gWgMX;!u0Ei]2O_-hK<;GP!:LK/pvCV.0>2`]jZVcc@07B$&s*z[%?O*=kD1[;i<'9FEn`uF$=U5DKk
][F'kkT^_JSqYH4:,=_BMi07vqau51?U7FQVum8APj@`rZ(bsGeZr?p+3f;28oVJMM#3HD)@@Y:VY.b<PX_srn.`3xSaD07'ydA
OA$^Q=r.Ghav]>fp/KPRb-u@!yoYg^pJY)+YbrCWT)CCGl)=d.Dj:tF2>U3XyATcpn)xN'I@7Bz<2f$V;/a,/ruknI14Ev(/4Y.
_#Uwjwj')_/EY,T7no1F$Hs8i7+'Qjg8]b+N:0#@FPl(yLm@Fp.2ezB$YGe>cp!7?1A,;*UU,X6Qb)Xc+xL:D3L]-2-TIoHU/GU
9j-fEJ[q]n^R(LiXzg?e:?(@S&r`I7`%lCs/)1x88!kfalCOIqRhtY<Z+f[gq+kkL)V$Ik4A>?xodDfjU5PH0IqSuyxNl^aHJHO
k+3eWPbc4MXc:&U)NC&ch1HkKS5;,L3C@eoWG_<p,UI'Y3AC?!yIpT7]$$'Li=LdwybQ3werNUC;lf8!5`J_,A8YU$`rSRwd3!u
;$DlS%fc6(Retnt^Re5gQS9+4Dc@qShhj>[XS50@87vz*?&n:y=u>i^`?yEb3wq/+?8Fu_VS&kDP*V)aJ(2&N5-pr75%'iwMN3*
2eCXq94v!b!tJXD8,y`R,F7A:.F=4MOS6=`5Pe=)H`jCV26hc-qD((tweEJ7yd%kjPoD^v[8+QbFF:-QVylT?Ra4D2k]Mu7ijcc
_FsxL-hLBkZ)c%YDKW!%gBdRnkNq8yV7!FI'a:b1rf'C7`7EGFm<hOKM8mI<DCw4p0Q$]I2A9N3hQ8^8RZ?2Uxd1,hcFS0-#WQ/
p-.'hZdW<tg9aH=Z)X5W0B=L'?<pw5+BK%fc6-y8<;x6*6aLq@zTnxQ-DR[+U6)zA1x-v=d4<@7ZyJw$HxJ^-9z'27$p/bc%)Fy
IW8j5;;(Sf/uVg$7!MS75S&,OnXEwSRDT3oKsMd,]0Kq3/p,1MCeag??N!G%mv,L^HysO;m;WdtOUA+En8^2u#;?6%R+kgRYnA^
aD)p#S>XoTy,9Eh]LS?MeGaA<TrnHH6Z!C_&fjt$EO-a8Yw1_$zxv@=3Q$XF<CE)=(a&[G8/0/E<3)6Z!gcaW!+H45qp_O4IhR[
S_M$N9oLXK>[2MD.k25J+9dT1!ug5bz)I>k7fH?2p+nSh6/G<e8kZJwrbg(m7vW'.YATGO(nxdJ3OU!lRYALm7LwGj.?y./TX=^
ntb9o-@8qjVG.lh#0fOg?1nBhUjaN2^jW.c?RS<J)yTC`-TO9kB_mL[W^$E=A=Akrxyw9iza5t1oPEj^zbuV!R3'$)GW`iO3(q,
Vf?*Tr&'aq5mR)7,&8VXx8IYx@4[cei8!MU_*'7Y-hzf^b/pFqw)qN>!yWZo@ovQ'X#TwD+8u'x`Cj'W5_+ciHgs&<'FEa@XC;8
QYhkECc_TA4&ImoV(Z+noVIcHD3ZL8A.i=ufOiVx>V:62pg!dB5EQ`PU/Ptn9Gz6Qz)mz6E.gt8nGtNke:ON%x?-4a@UZbG`#mW
Q-5Khf'>fF9W._d-X0Mo_yQkK)0VH8?v9@9>9-VCfOra7Qg2HB=KKcIV*Ui@_%WD0#w+<g3maD8Mz9@<*?Td>F!6Jh6@Er7GPsW
Jdd%E[@ezxA&%Ntd9yXnMsr*4CN$1aR-MT$=7Z3xjT;h^J!0f$7=x<vy?__[Y[@M!^]BPe#o#T1?JQ!h/LdY^:xe'<HQUK[V'bI
ZZH:lK=N=As7NdU.Qpba065>bM>X6En6)-[o#(08;/2+*WLI!jTZk>VIZ9-AzSKq4?1?7icjDla#DYbcD9Dn<az#YG`UU3MvN76
;dRdvR!ifUb>+o$Qb#6AmghwS*y71I>OM/x@@!QKGcACs=MNb#U*JdgWP!Lq1=_wGHQ()=n&uRzs8ylKx<&^@CVVJ)[Y$k$>xCb
@5C?`&j2`D/oq`R0XR9$UbkXS[Bub?9HUSRc^cQ=:vHg7q$#KR('PEuX]o#yI<j*ny4I;97q0Snua#@^2Z^+?[#Drsgq5Bj.JF&
iVdqU8V=i`r>u-=pbKhg.,^)]^tFf87AU(EY60W/y29K[erPZ[Sm.@oLccDeiMX,<T95wdoyqF/Q20Nx)XqA7t1Ce<hls_+cV$=
2E?Q[G!7ZY[m)ka.2>m--c@lgO>!;F-,?P%N_5LH7el#xPN32$11KDLPm$*HD<cd,iH<`5Z7%n21A.4`'EQowNM]5$VDl:[sr0_
qj/L(G@]JfLN9(iKpFFwN%==ZJ=*J'![nBT3Gf2f0rV'Q]hnCMUsZe4;o-Jy-d>=1q>LowJv7Nd^FCco+J=iw+*8JWbdgS<lipq
Zywu&rDvFYPAgZWFT'M2+Qe+d?,r)c;QBA&xbCSzxO;;6sC'aK_Nkgg*3G.3`YxVajyQWSw+RSt2WIIE(e@A0)NG&CH()G&7$Te
=['<8YL)a#hhAP]k'X^`@]H=VIVM?uX>*;rw/=Fi$eIa,2H1jM9vulj2sTkvWsY)1Em-,?Futx]QHy;WVXov(:MW]sfau,F.%Tj
)c7/k4Ef`:n1MX?4:_!YWoW0.6#0PO._P@I%F&.6Z%.`2:gTIs7p6htrps5yN#tL%/doj5y(X,>3#i(]py%27o%dr__)*mFBxU;
2ObB2?x/IP/G$Li2+^_!#pbdxlrA>AFcr(_N0319P%(iquUP4vE21v_xy)+H+7CweZSy^Z<S=4EimXE!ek@mXAqE=4TnUMk@G)D
qHwRKXOF-'47,M:z<a)Rx8Y7m`S-6DG8JGED,T50cTGnK<vY6k]S^_?b4KZ?_DMU'?y_]SY]29L!XS_DXn%KZ;Am%E+;L?lG[-q
(B#^lsF-uCz7TqQF#n3?%;AgS:'CUe''1#S!-](G]_IKm_D96Px7OCm;Bkji=w%RFfQDA2MH_YL^S:5]SH*>yl=>CZTc3AQV]5;
76hvIAv<A/Nd-S9(Awz4NSsR]Cry4PC64MT>*[uk*z6Y8k6M&xGxI'0m=G[zlq3-.lbjZB4(Wqiu:Ye8S>]nXYOwa'&E%IK^Tcx
'`PGFlu4x5*=Uwalv,N4DR=0[MdyVaLNG1,KyrGzez([;n)qv]CqU4'yl_<-B^R>/uu-rq%y5hdIh_oyr0q8s9tI0LdElBFS.N2
$c;[6PGUWUd)w+5-4$Vrp0Ol>M=KX7TLUfi-NmfgGd-[4kY<*CiTHD/v#Oa;^^h-I#xnzJPpt,wZRY>AccLHXVu`6at3*M;b6v-
SZ+>l?hkjK_0Kxzar?9(#lO(^dA!l0,;QQ)8go2;kqvyYt,R*Q],8<HMP56B^;`wvL'1PdDSna-h1tct0f8Yrs10uNzDMBB0%Q;
1Ggos[E8C(R6H>0Rj19ctI2Bd:z9v.!gqY7_i10@A/O!xG3$kBE:[GL.@,spk?hVnnzETQ_5d05d*mM'Lt7hZ,x*K$-*X?*cxyD
]aXU6#tm4cqhkB`0BAIPb+++di_!diuv.EW8%Ni0n[,%K`0k9vT]G#H.c]k>s!GDhOA1Y8vgvRD[[vN:<jbu_;5rWQQ-QYI#eif
2#GX[@t.I,E%>3xa+k_J*tRt==tUT`K%ZaN:N-90<dJ-Oc,_rTsJI)iB]XN1lpI4qGH4HjT+>tRXFwdj7(m3FqBU/PZ:O(tR>:g
PHdH=hr-aLq%CO<&nIQ>7)9g>6zkyUFl.!xk.P^7c9sH_a>e#^Bm5VvZHsBRi#-iWDBE?6`q=FFZY-*OF)aPo>x8r7ISirNK3D;
!0@+RqPy$`@FJ:W`R%#5#LLO(dutdJQpw%-r2p']AqmQoNeiu6-oaBp,ySS<$bi=^3YYF@D@+alD+#TmE5E^v*.wlfE(%]WK:NA
M#o(UULD8CZh;+/Ra4_p*Z/f'_`0.L$-ljm..dkF<!qBfmIX5a>fS@CKA.bm$o)T7QZ6ZJd`&UybS8H=t_=IiFq(v3]($Lf<3a<
=5?1k5@1&,3+z)G,^)U*6$XHyXlraQA<iG[@;dY-o5S1:DL.I?kO2pg/8TCz1Mv7szz42IY_.$3?OoCp+[qgM%dK<s`)>!aC@RR
tKaB7VT$FpU/Vi>Vo2ZQ07!fX8=Bc459garCm,!ZNVh?k`D7C/-uGO['+y3W)Op[q@o)ZW@aUfR44_ERS/_0cp(WBQ>X,mUb:mm
cZlqe0gVb_F>6QTIA>aCr0m>l`RYpTOL27]JUd8b1KBnOwXH/c&Ap7F;hGv`Y3UF2dA46(@H]pzV3lGKXAl.7>a#VxnLl?Lepht
MVxpBY/Y.Ja5h5RMKr>0ZYdYADc@7orZ`seI/)#h]*_jg1K<?94^0W?kLp6@3[lx3dDr&RjzU)'Ox9SsC[sx&t]l]DOB#[_O3k<
bu-LPLmmZ:2a-,2CygCGXMAwNS-*C*k]Wv'orAz5DDg-6Lw%zxUy$xI(Bs4=4he7N8.fh]i`p86OO*xLEP=oe0.h:e0GlsVX+&)
>aK(EWD!6(V:zOF`vTlf3(n=aMAN]a$Bz'9[ow)xSQ7au4#:r=!K?7mr1tfe58ePAoT90xNq3W@a4(,zu`+Y=g=Z+OM>XB;yo[]
HjU?#'(>J11b4t[)$0jL3NtW+5>7v_So:0uqHoD/`HiXG5v;r^qC/[*_;6e)f>vI'B.n[4iwgy:RkiMAiZ*d7/GnO,zWwNJUja=
@cN;3DyaZ.j->jnAkPM,.L]k,cMGSHuj0zjcA8TynTWJm-ct8;w-`wxjjGTVzY:h2uOcrnvCOrDHdr]J.FWrxk!Wfq9@k@Louzw
l(TZXof`DP/vU;nf0y@_B<-u0`eW]1IKb9KhPSUk%<D6*Y5mvI;(9./x`)v>z+<Pr&&;Y@efoexLP'1C?A9G*;J-F.n%mu[XOs/
P--Hp7rm`f<L`cW)r'c7tKqTI&sv%M5+M'A(_$zO1E#@u@L*Z@87*d*m'P&6V8McZa[mgC:u@g^N]U$b]#p$,'hp3TMrq.P&QLK
9%*T@DqgXszrG6B@$(#5mrDed#-<U8KDZuVipc?R`]c9&iURpJFK+xSf+RuM*sz^Ck%JL/!F-%fIlMOqGl4]Q7^$Lz%E!aO/Ul_
kr_9=(=:(Q+H&zEvQ22:l:&NEqSDf.3:Cjn!pqMjNx>?7=[.&cJ&YS&Ha-V&[xD`0Y;SN*0sJ#cLIip)N?`q9_7/s,z.:[PLa_i
SRhTA-u)S!JMwNlf-+ruTvy=dRgs!6]RD(5d$xC5nYHfHq./iFr3[GVI]hVses=L4WYL*T<canF->2YpuyjJ=kuH-A//jOxH1K8
EL>B9DHk!IMJJ?1l@`]eWY3iH^KBn/4S@`e=ps,PeopT<JUP7[8]d8&]md1kW>N1I[tk,1y/m_oe?WnD^Xaf(>>(1Aj`r6cV*W8
U/o5[Cy`38^HP*086xgEC3L(&)t*L4.<tMIkKXR:u4/e%E#JpfZXYCef0Yx4FXj5zKuAOw5CtXY$kL`j*FZ-U[qL)Ap<3Jo_.Tl
ZQo#HtM-S1d3J'+RMbl>6aD/mT$sM0#+&%obiYi8-R;f0K>w(nWEEqQb[%kL+leCq`Xm+u`Ai7W<rrJf3*pq/,0[vhYI,pesahB
4$1Uj-fS5'<As$Ly%XA:vO;OJhot+DVvj(XZ)E)1X_^BK6_*(3PExP[s1YH_<Ne6_^BX*t6uLcPdMl.hTo!H$?R(rmj;P/hy!$6
3:C?7*X4[6r%cuNc/Y*Lps*;qNw[js7u7>!rzIkH)RQ35pz)=$zalz`M=r#dNVbooeV0uw#_HMwHM:k]hCr(6Mb2Pd2)X+;g*[w
%wlpSbh297Z<QjDP%:A9>c,)F*DfmabBiuGpbFQRZyDwtibv7EJ_3zHT6JQXq#eD;PuM$U+njR/bwX,m&JqThvN+K8o-P#`g!qE
;=hqNqQ44:.o?jeRCx$tDZDg=+82m1r__;Wlyr'N^S4kW5w?Vhw>h@f@ZdqRvX$g%]CPzzB#=UPg#c.9E-I0jCeZq2&(10TPo4#
r)%8*7:.2]943>KkC#2m7y:??_z'U6#0e#$.C!+-mrm'gpZ`HEMmIZ1=^`-3b-4p?'U.h=YH<9I8+b$<^S_4L-j1EH20H83o$CV
dDka4PkTbkkmrdX-Cq8Ly`ir$JZX`ia-U;2fq,VJCv5n_Tf5uW_,$*<,)/J1,kcrVS)pt4t<Ea'MgJIyIRg]fG[yI0VWB?52,Z?
[8rq8,4w5sd+QrXHa-o!A1s/pR'*VD>pTS)9sB&G5C`W<qhc#%I'G<w':xnq0$n%QI[$RMn%[pdfG6GPNelde?RwVs(hMmE]UdO
wB.>h+'ea*h?nPT[8E5Gf<NuXI%8ET-[Rn.exkbe1D9h<`u+*8M=SQRT,'SUTQ&,9%SdF:wR>.='chYX5y4lwHMKhYoI<i=`^qP
uW^.@$<IbOmuu@qg=A+yJ[d-D%EXpOlvc0t#t18iTI3yn]%%'ezn@;/8]iM%9t3+*_Zh/CQTBfU`%cPa.`8'lYVkoVUCoq_z@YB
G*R8etwd:&6@..5w.hV]H`834YfNbg>L4t+^aC>g^e,&QGI5sto5yb-Hx+(ee,)z,r2,LLFICxvC9qi*EJsrC-Mn7*<$B2[62D7
S6bY!^+WI*QmAKw+d9e'+`:#%C5@W0T)j%Bjeyf4d/@)8#]LE[?mmEOTeiCc<3u<se$]*606J4zwI4=>>oTb9jfw>VB%>&ch1$P
sbZpeKT>Mx$)i2_>+w.K]2vH;Wmb=UogqJtNkkQZ!vpb(LOcVHL*k=.;CD:&ct[gOK5A>[0(*ij!m(`+Sp]D?bSS-88Aq%;Ku-Q
..D^<#iS!K!;+m%6/F]c?DZMt]&p<<$hWeVhSWEv+,K+jskOsJst(B?gU/.IvV=Z6*I/K=6@O[7FgO+6K?**L_Ps[`CS^m;H/6r
?<U$)87JzrAuOaOq_@2O1Z;`I5<j:l:l:1wr+?;Doa?U*QKFt&zd_irb8/BHSTc#>jqvPcss@$vW)UL1iQ_iz6^,p]srPw**4o`
DD#qr2vuF3btre*4,cT@zPHND1&oQ0L1^E-n,>@@+neEEp]_&w-p]8j/FinhSj!X:j+G/aggPGDf`?y4@+joO_BQwmGB)kYR*8C
h&?Oo<b+gw0FeRwVY0Iwk_@uHdEj4Os*a9xIfH3<#.Amxn1G?s38+?A^rjf&3Vej)qkV?#AxlJ6R*yULR%n880gjd+!$`(2bW#x
Sx_scKCIVmbO*lanruTdCi5tMF?o)LSySd@duMO=4a2cVYB'Y-ez/#2`;ebLjj?+D:mLu*vdeKbs)!d&o$`f]Fk@Ki=m-b#?ZKn
&&?c#/-Rzhn-6G!:'<N+10fE%)hWJ:,?pcz36fLMb0O6u;5*bA`7H#]yqXp:z>'E:aH>X$0IA`tA2p?xoKKn_YTD(;`qFrtJ<B>
6`2Dbt*VZkN7vA*9U;K^/xlXVg^&LKTFAry1A$.c9$I2xs`q:0f;Bizp?dEc]*T0K8ZF@N<ys-4Y3HF:93E,e(4k(.p[Tea;wk<
Ge0,kZ?;Er'89T--%q(X--.KtD>py#6n0(?t+uo;(R,3Xu=9:?O3:Cpe#b:u>FQZy0e6aqpY&u]2Kui1m)keWLS+8V%#23-`ZYc
/<MIYb^Vtg,AddC(_W(v!1iIUm&3a:NCMk<<dUphGrX*fs?J,T2bzIc==[0a;4;cDLcDB0am8'M%!yi3`Sg!YR$@D`&EmJJ4JVX
`npU9Z`Ne/G_1r_q1%tf,zj$)HVzpNcps>V4Hta)ZO4^RC![YBK6V`uK)I5ls3uRk^,giL.nYVy?XLS(,acT_IoHtkKY7G7gBF!
!C*L]4ZTOJTADE9=k^NEt4,smA';>-9GaK2tzf_u06<8cZ6NAQU?2zT@AMO,McQhm`bi9OwJS=+S;ikY$M>M0z0>39b5Q),+f33
ytGj'ocvE/H2mt*3W89DoXCC2FsusN<<5^$@(e-QgiHA>]WmLNs'xFaTE[pH>dF$:$)R1.'DG/hG*^lK=uKL%5<(:.)N[^ZV6s[
Sx<eZ'OKd+<Y'H1ajc125xCq]<*#dT(M,X2Q)>HF8_wW6Txwz-7%l-G4Wf#K0,jpnk[;N`(loLu[l8cctT=rjIJ<6o/yv*TevMt
L0Hj/T,#rUTmzDO<J-mQ>4pojE8wI.M4Oh!A6rFUn]e9fTK!4W,':?L2K[ybl[[cU88ZXI0*MPcE2;XMl_9pwfSrJ,f_#*xkE9U
2[S32ol:.I3`FSb%ymKa;U(+zuCdBm0OVVd@dVRbnQbISe[z7iGRj7EA$C$jiifqvoNYN^FghByP:jsp(5bvivt*YYLz%SFeD$S
BB$6J-&r8!jN^?qZG._^I3jW/xHY+cS#[,:.uPn8'%r!=yPP;5UNMwha1X`PD<(`H4y$I#,P<3]A&&NTt(f>%P%gXFD7)ReOmz$
OQfOv9B,q38Sy30;ew4kLS^W<:LXY$C>'Xmd6sE)zFZL)%.W+k)&Ki$5W1&K]HyS1NN-PlbWQgn.I*g@>ZRvA/`/jdglc;<)g*D
]V@2otO`O`pF&f_$Ayws/l-9d1[G-8PvN/Q3XHoPH6LB11TP3w%rnc@o2;R'@1u7quSH8.)77ms2z>F2e8I@Uyz2H1g9G![I[)n
o!-$)V!([bj`FSbhcuECJT0Wf1lCQP>@-mNq_rw'PQ/LqnUIyTUvc.bXZ/pY@I+%)ko'_c*LPPHl2_aMxq35hHO$U4dVt8Fw&7$
=03i%US+SXA>u+Gv9i4;ioR;1+t)xkZRRT)s4JT6uWjI0t$_WbNOG(ffpw>SVLC>kU$L+usT?*JCU/vm_6pC?:DXo]OtsxE4:c(
!/U_(J%UTrS#@R`JJ+>9a0'v'0h>[3`B*&?[Uz2R7ChW#)^2,[;a]F3XMY]3!!wI_!)&@vKUW)6YB=]a>kRppkihSJ3RrRoVhfg
!X7q+n1Sqto9A7/BIK*qZEpP!ZV?`IV?8<O1#.z-y3pkkA!T68q@j8TRkP19t5%dy@8im,YeVB2t)<j+%q0H<A8'iq[2ssS/>-u
kA!I1T>7>K.wU!aObA^5rEbq8KQ-n(;Bm0^cAC0Y/lcpNieu8D,KJf=^jEBZ[.Rq>:%07Bo)[A6GepnOy<98Vh8+b$b=m_IQj:V
o`+(Fv#v':u3=7eh*zwAP#wwdT*d0SyrlnLgUkyKRE+9S4UB>0'ng-cY&T+Qxj&.L--/QHk%v?)/C=EbmoB5i<dsp.b`M)lrQnY
cbv,XlJAG>3gF7ag(&A'p!hm1Ny]Sa,)5q#vq?-[SYH%a!nAwu:7NOGgQ`tFPWHG-Z.wS,#w@0U@l:6WI*ED(SaW1fjxav.Ni`>
)rV0#K/@=UGvjZ<s+E)G@_X,chv%sJTm0S4k`48alBQ02#/`gvgH2hx^#QmEcVPCyp!ObsCQaYF,AhJ`6;,_UB*x7vQfp.IU8FS
IlHO4,B>VmiDcuIIOxr:YAi74>$g?Sb>-Ruia<a>fY.OIoRI2`0NP_,6ow?#GDZa7oFnMt89foq#E[dp<#V/*%&=fMl3a5YY4%L
>4bCzZA6)e`eiCFNKV+:+$EXz?MLbWU_)3YLbY&,w9:YuYF+/OW51%s1WansI==KC?r+pU;%)_.,3ySV#^rc%A]q=s]6__5aVCU
H![6/J*)7hfzU*o[yE@C]ps#9OFV5^DN8)=c*9/xQH&swVZQ!%CWZz$M!;o5r(-:'NA^.Vb1p.4c4FcQZ+?udIZgIDg)*wlTl.%
/R1+961a]zcr0DDT*:$13$pH+s+lkS$^l)Ff+vF)wzh9EXgb#efZAh0^H!^',K5*$Z:h0yu[>'/A-yq%6V>k]ncy#h#y_HF%AV'
u+W:=5BN3i5DA=.Bm896qU&HTMUaK/Z7/+P8aqnr(u<mGI#dsZrCh!SrFzDx65k$zN/@%E9[LPm.=n+'(St&7;*eQVLY+C[heYk
6g5rE8R8Duqp#384IEABE=S,a;<^!Ot)^4-+vSsA@aKmq7)9VN6?e7.Q_cj[[-qD?9O^M91,4h1c3(r-ZR=->Dj^Bs>%4(Qu*:n
(8u?Ot7Z^g-1mauLA;5M%=>yG',]xPuYBv7CcJMojl.=MN6qUD3#n]a($_p*FJDIug=BZ@!/ARl9Nh(Hy:5=OL`772&&HG,ZdGJ
iN5qdE4uG%;@n2fw1ExvGY(54rc1LJ[N,+C0g<IucY4RF'dKHv2VZFA2MnSlHn0t.lGBvYV+.D'&Ow<Ch@i$rSbXXJKXB&$lmh+
ZpV9UDS4$88ILH5Hrz:$y@!F=7fS9Jll=XR6=_a?tN=2EeN2Ydz_bi%w2ty`d*A>vo*4PHG&kOKD.ANcnw]9%jzgVwbuQ4F(lbJ
I;cv?_dCh?%Wjn5!EVq6CF;mtY+tc,7X0EpC>no(I:pI)wz_oWlat#PL^wG9I8t6y8b2s;)?m;T%!7XUC0[aKf#he`mIHaN#&1'
N;CA/h9tAPd]qhGQ6ONb$@fL:H?k6T*Wc5qI_E0x(7.p4w;*zBp>9/RX-?FvrE>le_!qEyK2)z%F*9(gu;eGELDHS9DA7JH2sB;
=dW+S;J.HzK*TLj#WqK4#h;OSGq$Y=>qsjE.AL/'`XW_K^7$xl'FILm;n?xjdi5NyR`cSk/C(gA_3z*$]t=lChD]<h;CF'yV5bW
$DA-vKF4X+Acvo<%+e+!.OkzI%5J#1p.`;piL2uAqGK.zrNG*f;=L2q4XIF:,I*a[#8wPK2n2:9&r+zX7sz?,6FHemKBa$kv$*_
9:Q+Kp!iOY9$RBZ1#DcG[p]6afrlec6>l(,5&!$JXm0#`fbI67X0pN?Bffcsh?F*fMLr^tjuy9gSwmt$ABgz(P6#$sJmM3mQdu*
88Zz5i)n17e*%1H,xiLGbK%Kt]R>gB]P.xxTtxwqAkAQ+bl_.H9R[l;Yp!V+iLM/^kKdQQvgL5I0(G#C%UAGm8wA>ojvLU8YuwC
Z7W?mO_ag5V_zB_-XIXKL25q3gO<5+d0$%shC`A8E7P`Cj@QUV3kDJV7SzrN0@:wieGS8k.Io/o<5ZkIXT%Oixa78L(@`*-HeC+
*H;dW83Y`OOE?hmrnI0qW)q$2]h@61-7$b$mm%:IOelE(Zp4RE;BwGGc^6P]B6-yv)#$/,A+-sxs>8`YqNw`27,MvS+'wx%XDgU
]6feQ5]0%!k;Hp4<)iTUzYmi0rDrm^]s1H%pp@ZF+npO<A!`(&OL1A=(Ua>Dpo=1RP3V<!9;OI%ZG;lT:]=A4wWX+`DpEbplyuS
;VOMGJZX*O8B[3yHJ<#b%(]bZMIRO^A;Q]4I;6fibe*NVWq8p62:f_'55jCqDW1GM>tOa?t/Yqp:@.Ujw_P/Jo3M9WFUW4R=bQ5
RXX]s)PKEbikpYC>9=Tdhy<VRTw;oV8f8YpFQ($ug%`$#8@w&cRa9L?X/Cn^ekAnpwrXa=C#WVwXhrd#RoXV[iml6W(]z#?;oY+
!o<sscT)ilfj=w1'B,qn7@bZ?8H=MJhS1PmtAVync%w`]1ij;K*s&9C>0y%)Vv)zy#k%y^d]Dk;ITw[>Yw'SQjGGiCBZD,@<3Wp
Scm8gjO+=ukI:jsRvTv!eb<$i<Zi9ajJ0NX%Ldn9A8GXo*'2_He@Wrn`WLtNcTLMy7)29W2M$5,U;5^r9v79L?4&qrN<YVTO'cQ
z16Q9=a/p1A21k3,v4a(ez#kz;5u;voY>qC8m>/uRD6H(w(sj3:n)4)qY?zZoJTq@Xz!sq-Z%%-GHQ4,gXg.eP6>[/paa7J_cFi
`ek#ZDJ+r-Py%PIpArzoGqWE.[=gqjSXrrb_m^X@Po!PdcL10i6'LcX1]nu`O?V:0>oW(z!a//JMBU,sqg)0J.h(x^acTdU<!5Y
*`)#bv]d=[X$<m$htP^$FE2+7j5,j-b84(1._/=RobKQ-ykFcd#X@1>TgG.*u)-h1tZ`zUxs5s?tT<V]Sr`J5?Njg9_L>XG;&Dm
J:@5aD#%2-u/^(Dn,a.0p,&MaCcVcU=GN%18N`Gc5Q=wB/WrheD=q..e<^=B?_e.@MI0h]p#/qT+-pR@;9`Py76<o-r(JU_o=e5
])VgUchQzY[.5p%2BY]YC/G;$eT!&0Kac-HBR:Z`5d/Cbow!o&[_wV&3j]l=2[dbjuT[[wMM(gU9,JNPW`8GYNtzDYjWFsbO2NC
YKbFz_D`Kk%w,e&l(/@wGAi0nhg$n:F?%c`X#=?>QD6kL/ysv*O8INS7Zv[(6ukPFtk5#3g/'%M_KBtpt>&'Bp3V`J'a5h`Ouhp
(>COn:cddspcmcW*MogxGgEE>F4htUGNxBy&Be=DplxN<U](P@c]CFd7NmWL1=rrNniQM6!pdN'5QJqXN@6k2D;XlrRh623JZHz
)Xh^Pe,,_W=F@]fu$E0'(Bx&516&yhs`]Mu&QFs=X8<X-'_2dEZ3=R+^&W++Pwh5>jbCPpGX'GI?5p:k1h0BoBAQ3iiID<>0!7g
&e#-TpGJxqEP]+uhQRJzB5fpVk'z?8*Jp'aMkj^zq1T2.VA@_)=nCZYH%%3B)_M^A2w8xA2[mx'B%XDxtMAo6['8y(TCnY?fd!=
d$w@B?y4wU:&LnA=cLn^bvb0ek#(AC:sq<Jvv@wmh$T6(oT-Zy1ob;F6#X)1W@g.>&CV#b?#(p]OeQ1o'=%%NAt3kU-)&US(lL7
Dm(.Y)-kMj-VLG6b(s@?8blHy#H[)WWC%YJE+3IF1lbtkZ!#[ZdC6=:Vt*v'@q2)SQILyPk#[1RfZ5'WA,eRxk9gn6^pjhJ3NRy
8ZA2Y$i$4P3EEG,;&FE=?%6xM*&HuF[@aV^/=bNA&i&a,k(6grq_FvP8lQ:8_]=Tcnh0q,kp#hSpDXS8.zUzEssO;Qscve]V'xL
uY^ad:Y9%U;N(s(i$3xo#_SnJ<U3Z-^^Q9/gDE(*%!*P*S4?s8&zhL2mMa-;n+zhCnlk8AeUU-[S?lpg]-,7O[pWq<I0q/*zj-Q
,qR.nARE-BgM=R9:_EF]:^UT6*YUL%pEH!7)EOVKB_8xFB@_@M$'-MF*3ISfW;_2hdC4RcM_#XJb'=wUWHny&tc9N[P@ou6U>AQ
-.aka^lFbdRWW?l-;_kSCJ4&2lkD'Xlfn,KBgs0:e<v]%[tw`UyEth#)S3Sdg[3by>.x=N0'tDSSZ5AgJhRIH5iG-//Wc6DUb6k
4K8S5:pD%o_@4qr[,M14f>KlxH+/Cg&wt*b!Nok>JZeELurXVLBwQ]q#!-H'th0/>9(oG`iN^5H3Y+@Sr&%LDuJrQXHJw(,/rJ!
G@-^tVcT6]iB3ViUl.g6g+_]/r/J,gk%._yi]A]Sp;ZPM@opI=)vEw]`,8n)3F&^J)sB0[kKOJ]5Q+xv/mdukza;:BI.@rQ!s*y
bSaRc&Ui!Uv-]%,Q`0EO[n4D@JSHNCf1T*KH^D*MxkxnsFoKaFsDqvh!JZ)0`n%S^P1Nd^'H#WVW82NE@Git.`a5N%Dx$<ca`8Z
CN4+7@vqS;(P!Bkl],xy;?1vEyI+/9p:XM6AdpI!3k6pm6px+Ks9I)5YwyISq(ned)2oRA`VTce5o=Qz/#`=7V/MMPBg3amdNO]
;ev2F[VzeIheyT<PvW65lo>/]x]hAosm:VJzDT+]ULR3+j*/d8@2xxR)vq+0AdQ=LEqa``0<Jhf2.zj:gWan@mtdHa(#0GmdWMN
yxltA,:8QkMQXAbnss3VSyJdzrqs1]2cV&0_xVjla$L/@t(*@M+v@,Q`1ypRvZtlWddBy2L`>,HMA^Mne5XHd`tC:jKvomdHvNo
?CtrSb$nVrrCk.6;/&_*uHfLpBXsA01J91K;DF<7.JyCF+La'GhFVoY'ZF$083NRg]W6$P>mUOSJ-Gf'%%;erbJ$(=1N(ch@S[5
^(9(.rlyah*Kajh=<^UrIm4QYFcKq,$N^4]8s,reV_#]ey`;'Vf'`3QkQC>cT#1Q1aaocmP2^I4U'nXV[3;p-hw8.XTq@&ALUMC
0la,<Q'Ko<6MtN@FsBUsO!`NV+MnP`3G5B7]t#PVFQx%!E4jE?JeT>pHZyq]8X?2zn+xBT;YYK]!jq,0`r$^MSV_@m)$Trr3alh
=.%=9aVIA`<lEbDj?n&0S`-zug9*_TV$7aA2GP/4#`Qdr#.x>E1iFeDo+fLH1b%Q#J*>i,<Nr-vEnU<ez6_PoCh[=fcRl_/&80B
#?FBC>.'/D=b!z:a%V9,U7ez?u%tkC<tpk9Y-qpa'NtIQ:)$,<VZJRrU;^U7*GhVfE@'wId%8z1o(N*Bu-NZ?Bg^7Po^+nAdsoI
TjQ!h*K.z`*XswGFj`Xn=rI:PYd(?O42Fv&Qg'&Fi!dRZ%+ZI)IG60%r@(]s,g'v-r@t;fQjeu7xMS+@Tj0,`kziw]70_,OJV?,
N$]KF^JF*A!bKg_$xGN1'&rm,q(^U*gy2#BTygQf:e;=)b/6@]&HKwEB.p)n<e=X1eK(q'4t-btHG@yWVMbr@brg6g:x%3O=Y_X
*p/#J(E@e@5`mlZODKj,H<K)]*Z3E&hyBrH4By=mT2/qKQu=H`bq5o*:>$;v7PmEM>c?D=AZ9-6AvXTQX2x=t6%^/KNL;:/OI1P
lO;pCZ<`P60)?!^&l:R:TRkW#5p!*r#fUWb*9]w,v/`Fm=,3=$IV3gezJ'uV1hQPH8Cvp%V$t4i1Q%k6A><Y<P#</``!l&cM]B/
Mv$&luW(FU*h$VO65kUs7xgPL]EJ&]pQ2v]rtlmUA-4H@fi;e$Y^#N14XM:T`E2#2F`MxD(9<c/Mo?lbqT>.n9!bj%fy%:yO3he
2HwUaIWA1=*0YDFGn`JC;Gm(X3u@E_4U4O*AiLg6n_L2Pr'1=d3<HeiYH@?d%cut06ZQ$Pmt[t3[0fF*V@MFMXPG>4w1haa#IQA
ipOcN0MTw=aSq62z<0DmOiTQiymDGSS8tEkq'$D<0s!mO874/rSUGHO`9n6-`>aHiyV-RVuXnS$WPoOYEp%-Nk@lg+xjY!HJIND
X;M.AH>wlP>9j&+uoS,BA0^%8Fd=wd1:)m/oZTD%w(ZceuDs@!QdV;ptEcj2zrI8*/G83Q2K9A27?kBJ,HaOz=KSvmV<0(!)a6f
%30Cde*NNW2*<]0PK'DVs8YOthgQh]O$(5CAaaUrzL784=o,8XT<OD1Q0(lw^fKyq-`lni%ya+hzP^N+-'EjRX)Y*#/AjH,v_m&
gp=YkkBPCPz^/lhSB?<BpVJmghydtA&WG&In!4D09:bTUX?UXTU+Pbf!6ftB)HRG%6i)jQI/*O/Mq]Vpt@edPE%_TY@.<'<^$eX
WiD'PyCedt03g(LV8K1@!jPvOh]hV<Ktn2''2:<fvfdSU/hP-6Bs'h'A_H@J^J.VodAm+NhTv;3%@GwF>Mf7bTVh5xSyD$d[CQH
-IkN^eNdfpYQeB@$qb(&#o#WG@18KJ1Tln:t:0I!=;U:Vh88./rzjR9y[2X<>rLUj!XUtSJEf=d(igeJ.ePX3qrxVw=b`AW@I:?
Mw`7x@V]TK9]+-rMb@',Ldha`>L7nXcF^0$65rs;'?Z1)Ib'pSw%>3'VZUG=Gnuuh<,x+jx6R+fm>D&9V>vcRi2._1^Y$VF5q-i
]7b0`xcFP4!%>6[nwi#gzJmP(rwJ4L=Oj^EBkz*]v+1>.fD^UQSHZ[[VSNgkG#]EV^J+*2.KIQ5MJ.Tm*(Vul>S?/e$Fmn?$X1h
d9CZYv+l]]t*D$vpeWZjvzzj3'-yEX7AcjA!!L`9qUip)'fO<sf)VdXDrrD&bV]Ysm.%KEWed(ysx)+(L_c-Kzf%ONzYz.34l)3
a'ADE$rh,D6][^B2j0;L>/?c3H,G]=s62dmcP]:U(55v6Rg)BZ#c5dxEC!X`<E6PZpMO6g$ArR)Ma_wsb'c)&H;s2]RkwgCz8hM
O,7uZg7uWczO7HZW%J7';3rlIj5YULzFP2ew4!^PO->0-T^Cp>.Oy+mzI0tVG%ruAVhn>&#[[l%OI/vC2*A.>z4BbTeCx).OZg,
O+aF$Qh6:%[yt3an^kJcK&?XQgG>&4l.$gLHWzAdtolEX4w@?>Ln^=fis:eun7bovy4yrA`u:vTG%b@`h_Rc?yGyN8f.)6Vzk)q
ev.bY!mVTMQ?*_j0T_3!dX1bo.&5^vA*166$Lq.M<Qtc``H^$qIA@(1*)eHlhh'v;+!r;MyG5g(+_Hc,6MPFR'`kWibQouTVI8d
=F.^6+%/_1bH=kif#8Xzfl4rI=pOFx;E?P8/gdL#1bzuCf0S_&gF4x(wG[ymzp,W=q??^PrcHJUDR3Tl9CnlnLC$y2.Zj`xXTq-
P@CqKF*j^^'83K35S@q%ymznQv]4v77$)^f.y)SG2yQN`49*4H#'S853'dBqc0eP8PbojUxK0p:`q/R:9-Nr!SM_Sio>B@wyC6B
#Z.!G)W1@S$5^#+l^8woV&3yUivSnlBR^FLuSWxrN:Dwgj:(y7M$DsBt1HzSDe1gcen.Qpg)O%neo.`:/^[mKTp6e8JMl7#C10r
rW/ky5Q]YE`$P,COu@poM#`Gq48%V[-YA`<,,Ec?J5Q:N1>1uDb7O$af^MM[:7v39d4MvnEf,foINIrv6_q=y3zAb1[C;s+O>)j
`T&pi':ngo$c#3,Ya:DA+!,'07=tziW4&g::tfM8vBEGom2+8(tP$<5X%<94jEcNF0^D%>v-^[r91yhX,>z:sL*r-OT`l<J$:)*
wSx^10au#zUh#L_tQQ@Cm(-Tz!gMcUe;8r1Fk_Tl+/+*rQN%tP)%oBL,nFfvJx6(E@JAQao`jXHJh(IE6JX9=8WhjC1Pk3d<e&]
3oZK]:['XGwTU#5f:o'Ul!WX8R-lNW*^Jf7xb!2Qgp^Rj%Fz@F/rgY@r;@&Sw,sM.!fGgIoH,3o^skn*v_kN+2o?G/c!<s6FkBY
pHAwTSWM>`<[oYm?3D0Qh[=2-**X@u!LnPv#a.U:R4Po&NcqfW.+r^*@C$<fbv^e!L5ohF([gsN9tQrXOg^]d=cKm]_307?n_=&
H>&t-`7MZG5zzn3n@]Tpb`d@4y4HD8=clO#LhAocsQe[u9+9Xk!KtD3%L^$1e,53h;!9#ss?tqtfF<,p),937V8fS'+yRFc8('G
OPNamL(F.&DUGj,-yd<dT:`ZW!f``mHscH%k%>69&n(LXh6&6QJf`%)-5TTZGGjHkfNu><;+;3i3[fhUtwiU9dtarBI$3UKBvE7
oe%KQ]r1aCwA3gCm[9vXkpyhz<MG[N&VXkFDs3lHx'btgAT@Mh:UO19VN=,Ij1Q]e0(aQv98.hhwF+Wk<U;]G>qDcQ1gYwV>T=e
F3?@Pn`7K!vnn?&-LXe9+V,ZQ<#ELHw@!&nozL;MiKpQ(dhC'C1knYpXUfg=1XkTRR0&'%`7dSgn#ejRa>+9t3#&c[Pv_+0(.$F
b6%=pK+`sVib=dP#dCVnhJYO$uz/BrkQ^Q5'eu$gE6Y=;IYlyRNc;zSHT*y/nYf9G^7dhAda=KzKn8R8YWCMay#zT#5X,=9MeW?
FoPrIch^DV[T1g7s$](QZS2EYb$=1'u7.,jMT_9+0ns3LwRXUTsO.rp>62&?Q!%YK3QEp=pwZ^B1P!8q2C:+$NKU:jkyh=U9>k6
(H_[/&a#9JKz'Y_7BNGdDOT<&G]gk^vo2*[D><jGs!i9a;L?`gw#9xz.[Prf82Pi26Na3JXc`yhQxp?bP5a4PaJ09h`:`>QgfqK
<AyAx$o;Xf1?<A@q7sfG9p^30X,/Ug;i580o1b^Z+(Cngu7@6X=wmbEv;@;SoZhS/1::d>IP>,+Qa$Z!2B!Ma@fJ!/z4_5G^Boh
b5St!xd@#2jq/Hh@>,O.d3xF2a;ue-U[q=-:F=5_Z`Ylv$K(7MepEkFzw5ince(4XtQOJ^.Zt'>+.fD;z.JHFa]KzA>HHg9z./)
XAPZ54W)]gqSd1.h/&&TV8Rok#j.qP@6Ft@F*m0o2a&*#mr+9e,&qXzHVIFZuEvz`DO`q8BGf0#;c$CuPX;)D<@^q[8N?&XaqSH
4xnm;6;20p:VAU(0)]@)%7im8wl,(T1xm*@=inEt>Uq!m6L;ywgaE<=)JH-c6yW^[.$!e*I'VwPV.,cbO#$YnjVtBeU-Ki&J/)[
IMn-XR;qMyDbDZaA@u@n>AiU^LEmMcI[91_A('RTL-0K:@0$.f_-&rAlz3po)H[$vs^Ve(p_e73Gy7,72pp`Wd%'[S#Km5g9e6?
Fnl*-IQ'zl2P8/(e`-o@2Xtax+19A:u%v6'hiQ^9p[SNA=<Orb&9M=>E=ykNKjlS;l&d0mwmY'V)L:e[Nqj1bVF7]R$<*DP$aOU
g<jD9%`=Yx[xu]$C/^]QmuK(mQ']g>Dfo!p,`V2IR=vabGK_kI[(!I/J(Ef/<JF[EEj60`z5wF-ofY^q^G@,ns42.P[Q[U4y^U]
.+i8Ysw/2N-tUzXjMBr?@aX;;7&enC^.)c@9Fjcqy3uhj=74OF0QhFH/F;n%GISaRIcLix-k=2<XvV:.rp)2YNHQ;!>8^cL$U*j
#<d'LVe!Yb2^vsxz!Icgah6mhD;OyD=/+M))F+aEj4?lUs0Lef>nV>TS[sra@]SNI'o8:,0C1!B*UT,8UKDmy#g=GkE?TeNKw<9
LSLGyd`@&xJm2f&C/RAt/M'o/]=`v1:Ih$VT>>K:V7G?%'`AuNt;8!MjM!TD*3PDX^q@Hcp.6w/$M8n&sV[eGJ8vW)[`/NZ.+BY
2)G$4>)1Ei.$4<@ABP^*mTGj-$.(7?BRnpfKcc0LW'nM%G=SaFDCr@(xs!ATUv.=QAh4%j5;ReR'#e9rb25?)Yp)$l1Z4.g9KGK
LNsOjJ3)n@'D?G6nl6wITv3%gYbV>FK9s@hh(^Ov(ipZ!%<wPw7t<Z#/X3taXL+kE:QMdwFZ68N>=J4Ggre_<?N7BrG@y;r85ZP
^/yFSGo2)0X$L*?d=(S#;z'2S)/quwx'KNv$15g>a,wOFQ9];9O2IBDMKY(tM.K;l%XhXf]@$Q67fX%vZ<o4,viIEiqg!9=JMqd
+opU*7F=pj'[PM^:(AjrYNiG[uQuOU^`@[b(xG`J+D-OQe-X!HAqd.Dx4u5hZLH2>:FYmX+Oe>fjH+RL(#KUvb=_9x28n!j,Y.X
Rzy^44y8I*L0Y+aw3;M_sQZyzpUX-NOw=r@n0.dg%ON/rR(Jm);dnwVI+z5?)?<>I8ZqraI_qAuX&e7YaRcOX2liYhYs?/&CIo/
-$]qg-3??#2&.mXx3EB3/.r82N99ck4Yf9JPEd'ssT8/56PF_bi+4fT<X(v<p9rEMYT93jjz5&;/v6KRLklRkDHdY3&YvZm.c>>
0G$oAzg^e5Ttk55^o/]B36iKdt(9w>LKwxQR-CE1C?X+W0My'[S38vP?ZuD;C=f=qO5]+p!:0L@$[wx9;A.o41!'2r'oO.ulSfl
&IKh#N*4=%?;Ix]#e$EN(i7Qo&tC2`OBh#?9S2U/&r;oJW(eLI5fSvr^XxH>:y,svBa;]+%+F9!c-Kr-AOMXler3K>yL!248UsJ
9QDmJd,%'l6)P<]JrH#7JRpgEwVJhIqB>v=uqzQufAh4)kvWuwRhSgi=ktns&EW(siSE657f7SD)lM&peSwN^(`UQX0feZsvc/d
J)n[]x/5)n[3W^y4:,n#PWc1rU`Guq?u=RL1Tv.Y.%ihqzV7=xiaf)Jw-ckv>)YN>$g&I/Dnx]:OWJ;#Q!Y'V.$86$R3?m.+<TZ
#.0M=mM&r8zHKw<nbpQ-a&,WY[z(%B@DfCvIKd+-+zYZm%dN:&,;ab3.O%=[`Zym@-)@*wOV9x+-*cYIRjNpD><#cZN/U#lCK##
bbWpfo!]t53Qrt`G$_Qo>POz)D8X>ZM(esU5LYz?*e0^0H<iRrRAEECN7$e00HMH_OeXG,-#cPO83<(hQ8Pg<XZeYYzLIt,bd%'
v;BA@3urI9vM(Cb+gKV:)xIb'si+3$#zatoN[qG_xRNKks'&30,7B*.b9u3elbP`EQLVA>(@[u3.j63v;dC<kEeDZ<l50CPct!k
>G3<VUM)9,2xS=q/I,W)cC/<-I]6,u&R!P;..L7Q?V>]ObUtBOlvr,p'?A@4FE_B>*eTLagyp^YuP<x7kH2CA!zYgbE^]!dhGem
m*@`cIy4+=Ukt4n%:E$f6:KA,4x!LS_=1NY]:&d:V67^slMHXZNctmyUr#?]?V/A(5Om.RkGr2ABjL]#!0`Hca#j/Ht.zOk@pdS
nfjMHw@&<R1DRdb6JJ#57LpM%FW&o1;>i[7Rco$sg!=F<yZaPR_U5%i`%=!IvjnHW!>Bet[0PGZTqBs.5=)x$rAs_YBSXg80K=I
>Q-BQt]@NK7cLRe^#h'%FaE(R3OwYsfczcSA.k]U0Z]yQ!^>r;6anVa1hJa!u(IhRtQCiNdSXEDBwS0fYydM64);rv57d*K5[LM
9.q]wLxU#G;bk^QKE<]`8r&0skw#d:^FXE=yVH)*3)qu'BYkF!ov^'wP3Nu,3zbJ$;;+hH4w6W_r1=RUAuhqMVL?FGm-osGAFyI
u_vvN#4uTu5]g13+(C5w%V]#Hdye=z8!CHPTaz@N+[:qB(nZk=IWSDlIR8yL(BZrAoM&/7_XY2z%OMoPD!=u(5!?2g6B0PA?#<)
g]M-!y6eHS4@]e`=o&R2rN$(`yTc_32J0`ke_?WA6b0Cc$l98Kt6_(4z*aO.Q+k$n*/v!yN^MMwA=ZE,@kLtyhV7WKki)MIq*0M
RLwvlm)YGAko8!Jq$uyn[I^w35tEvRJn,'inhA(m=,zus8EB3T'tg^6g_2uTZpW8WByxi1cgVT>E$I2ur!,:IGt5PX)%[-Tu/bn
*KB5Jie,#!Km-4m?nT?@;ThCywCLp5ztF<7^dfgD4K]5BA/S6hKgmPKEpD66lZCL=:zIrr](qF8zvA7g]7.81uikqc9O:.0lMIi
:ia`ws@Pq5e&e-GM)r)iQL+)y>I<IY1s(e?QF2+^_oPd#@jz+k[ro^uQn:C1,y&*p+F-vjF@y?JyUsR-c)V!f9a$eG/#-mTJxP$
MR]r_iy'D:`=$]?rOSmVuF.p*yVQ2%+>Lxeae.miJzl6@=%8#fJ,LoDtS0>Mkl@ZAu/@tIDGUj.?sdL;8Kg1/Q-0lYaxQFhic+M
6fQ(j6yapqrvDd'WwBJL2GHw2?#`Njp[$74R);Q(Q/d9u)vntN+:a*=WmIhYV?(#^[&yB6?f$+h^GpJuRY&6L*;?VnOD--o!p+l
&paskBOD;.J&H9PN0#m2`40:Go]RAKWr__(B/z!MdYwISJbNR9a;ZC(FT)CNWFfCumL85igD(HYY!`GP7WqpPe:9.Y^]SOAYJ16
!`o08^VpgcHH6w`.nf2X<%=FgM]$2qT3M$2L(xZXd!d_^SLU0huC)<KMubLu2Fcsra&]1P(kiA8YswIbzFRiMJUa8_:9H'O>Ihc
x3pizKovBuNCWgcpDYSe_z4c`T>wv1qJm+.Pg]([qmZiU.YWtk>!1t)GUaYqo+ioYj&c_/[zzrTg)+e!GJbp$>zRhcLOiNhHMPB
5xRCk.0bNK@7Ex[-]@D5D?W'oh`**:p*2Gb4Es[J7Tt2nB>UQ*fLKMh2YU8jL_&SKi>w]D)Pk@Rs6O@<k_L=f<Q2%OJWtYpvTqd
YwSW^H<P]wQHwbzPJvfe3$;=K9_BTx1fnS,Hx+'%3(7z:u/QUL[+!YZ7<5sftdnyT<$xI3Sjn21k&:W_XWy?Q&)%4.%3dV$eOsb
dr`O5Qtd)sgs8.&Ho;=J4SpbAw(?mxYR@.UxQlW@?jR4f@^Ma@R[KUo6r&GY?jO<kF]I/]010tqoPPpPb#B/QXKnSIuCUjD@:PV
3o/WRxk;)VzAqa8O/3=j^rI9FNaM507f6e8(LQ,P6iW;=_nhQmwh^hFq6T4,[lv'HRb>OFA9XmX#nXJ_Q6YX]SPC'b4^xsmFaMV
o<D^GVulE&qk%Q'RK6yw];)<b>bOS6XEDrZ>X^C#6/;v1^zEExgpU:SsXXZ:S_[G0785-^c&Dnx_2Ap3xlB1u?J%kUB@IW77'rQ
dZ:v+]4s4f&0kg;/-!%ZQFC)jmJE2n,ezuOf7+Gm)%Ag#:+_VM%(K`X4wKF/&M/84D;#2>6K6$UFZ+*3'<wI4.t]iluARF(_<_Y
Cdy*&NC`wcWamZDcAa[55BFT`&))^4IXl;VxA:412_62?MQxw7MFc.@j89'T:=1ki_'IsH_1TFHhFfJDjqxPpW!P2(w<YXE^qEE
9_dBG2p2)b4s,+hg;`pxdc$-,(+jT(z_mHv,bEt_vz]dWVNOZsCB@PgGO8p].<*,;Wx*8U6'Y'N]@1vOG2KHA9$o8rBw]'tzT2m
48V)h.tL$TL1a@=4]O&J`8i,?TDF;?jCIq<2AS5pS7bhCO:X3FIU8,$q/dOrTTh]mxWvo=h!A#Ux'uE(=EMUxGcC+=Ndh(7Vu4N
?m6;]yf#d`nD:f<N07rBOS9UUM'4T8y;^5ZuRjN3oCa1_;;(ml=hi8Jnenku6>u[y][3n#Hzlc;mx2Q]Cv]u;rb,nLRZW^X0^(m
%[>zk%I,i=/qL5`/1A0n6FpW3TK;nZ!jA9E*bX#<F<j+<kYpD%Ft$<##QNn`I&P-Id-8Rf<HN$@$l>Y4n1%6D0*,0P0F?'5<%#A
WTVGPnrO<^Rq%_RQy;n!fxxVG5/[Vtf8$INS^Duk&REcPU%for5Wy-.8$=]N:lfNUq?m4&JtDeAh^tV[qw/2tY,8ajFJ.v`sT9X
c_wBdc=hS[-`'%lD1?F+mW]=4s<j7'*v-,S:+nz>Qf5p9hgcte-g=`1cigV.icHf7kwcJ,)6.sxCxy]QnP9@a2]`bgdL60Bo4vV
?$B_HWx4-Ml*;j%gb*`le5rzmhPS'?eHlV-ndWjB;%,D*-X(-s_C.;mo2RA'=IM$A#YOWXpD*j%Da#Q%GpNrbu8IW,2QUndEET.
ASI=AbRJU&05]kUB9%/D;3'b9LOE.C-A<kUDcCN8=<(G[=ke>fb_/_q08T+]Ch%E!p9Wyh='nwI;?z,7ic4mN-e,r7HvoC_C/7P
G.YT-i!_h>QU%A^JQ5?iiEp'd4;CcB4RU?1In'9m;jwuzaJE>oy^cS?fUK0ZJI;SsGz$GO++fZS<lhKrlZk6M-Kvloo$UGPgKhn
#+M:6Cf8%qde*DNP84%bNc78'l8>x$*T&%*5V.UqPf,TLy%D%M[9ed01JiA77<xhgcZldohu2Q'>s7N/4;D;3r(dYnb:``10D[M
]bvn%r;aA/bt6]gi<o7WXD%V(8wwcBvN[8*(LZIcltS<Ka(Dw%z?ErW+A^5;La8;1l=W=gKKF/Z+!*!3;?gtv9U,B)glleh=Jf-
_GD=nMN5bdTs>EM4)Uz=>Nc_u@J=gaf(O@o?SF<]mLvi(1g6pVU4]vR<A9d%A_rn(K+/@UmRZ_J_>B>'rGzHzob3QJCFI;GI1Z%
FSK,IU4eBJ:4(uGX0#!6@/'KOK*UgDv^+BDkyP.dZUS&!FJfy2+(tVb]T4L,Bcu_ih+:SGwgir&d/t>?lNG9H*<25Tuh9iF]vUT
EGBuwwxPO<^e?.^'Jk3]9xyP`>kEJT'6>8paQ!(eVv!piQcbc^3EK$H,B6jmX!<XSOxq'*iy-JOP<F%,])E>SO3MN,[-npb]]kA
NVAOU]mmKkYh+U0Sip,D)g;K0/0d&=iHW-ZF>H?zrq#]q&R;S'oKAPu!ySi'6;T68E-z1>>0ln%WXGMWEt[+.p`2q[DWV6jXG)1
_wB+=:`gP?ue%z,=TY@U+rWh?VqD67B_upoN1E346ka6M@k<t<>aKLkRtVvAyOulCPF%uAb?;N(&tX!?EO+YG$cpW%nEN1>d7w2
kdf`FwfXb;sqLues5<DJ$n;yO<9=-c<h:`R[U!Z`0nIW'1N.=x<]YNTZKyc#VPyb[W)[ttLd`('/yp;X(9>kz$!D.<NHiB%fu_r
OdP4aG26G?h87(m]Wxg4$EHL:EW<DB3QR@.1!!llV&nPc,0ydQEM)QwB0NB[v/jM!=7gMh$D<a4k*1cdP6^t'k3F<A!ynfW1J*k
]5H774:^E8g!L(nZfr9OinB772j-%V/.kICNmr>$eGK+pvfkJE7HuQXim!@+ZX%YJMP[q.1yVwAPKNs(=wyH']IbQzd7<K4VPXW
KU<gpDLhtCd2%i:NUeFR8eS2ULo*'/m`F4E5+ZK5VcN?#5h<ss2[FbiLf#lIL:uF5<-^<@w/uw.Rq:(C-zA4C2NR2mYdrhb!ZJx
ZVJD06yfP<DV*%gu;QvtB3Psmnha.GS4BP=?q3]O-=7swjcWz0Gd&dRvc&^!=j5FGn?yS)G7el.@#s/LbqlZtf^fdtdHgaeMI=,
;[fn`%'SkS(a(@__/+w1v6S;m@n]5Q;6tklSkhU,=]oZ#:m`7QxDt=FVZ%9ra+o&IM+GH54I20ev`Jng.#!axy7=Ul$+U)'bXj4
3qPFR#v7bz'GNXq=Te`g9U4ObhLE'sTfWeCvCAD81iOSOZ;^[;1*AefHniE;2nub&JX]f@KyyE]`)3Ahp=e,dOA*1B29RSu7=]L
`Oc*51'2ao<@3?bf@/z3h^ak;-L#e3]Kv;zhul0>kl&_iklO7c`<$zdw+')+X<+O[%$7w6Ku2lykLFQdZuPj!P*$Ai*]]AL1;g`
J9HQgK-7uGeG0V+5QVQUi`QuCb]2z+4i[uYYSnt*HNy,_^ixpF!i0t[-wR6jE(Ito'*cM!*NuL%?HO)7[5QioHdsDh!GyxncCZ-
cw?n1kpo0YtEX.CCWLa'O3K(?#]EBS/!-F?y8&pb<5j#8;2i'uz0XM-,C_0veH?^N<_Q`<U3mX=.$2w7!F&tD2k^''^`.:ySK`W
U$>j_Ay)owH>k8uVvg[^D3PW&D$>3!8MCmIwFQpP$uj!B)5f-AdO-bBk?Y5/pdJM@pq_Yuc%Er>7p[79t!wv7j#1hqF<NFvG:^[
8sjT?v^C+;S;aa)JrC>6s#K(W+0>q;FGMUtJQ7Fg#c6.QEByO1r2(c,eL(jBeb23mC)*MCkJ074f9;CzXxKuc?`R--P4<Zu4wG,
N8>Bg62kuf:KV)7fdfl4VQ_&QH@WeKr<k[E92KgGmWUG-,SOx27@N;330i*q7UwlL(2qT55>qCw4pBi;]U&r#mAwgfd>V8_<dX2
NRa(TUQ[+/oXULr(of%Y<c0;BFm<kS&W#o5@IQ;yB%.+#nok_@!k$;)PhSh=/+ToS7fjQ'$GWOX30%lkSo-.=)^vPIDX&X<Rhqp
'Ojy43ICs,vDo4HyjTvVkInWGXu!spjb0dJ'k#R!m>)C9E>'F619QXZ&?oc=RkbsH!/hnJ+Y,;xK.Z(M4DEc[P1L.OQC5yC&^%5
*>q7:Z,#'?B0;d3#]vM!d0FlBNRv!N+ioT-J]O3P2E;CTNt9F,J9.%CTXcuLRicW*^KK)%'WM1tJ15RF&NVWcAro/?Xohe!3bPC
/F8!%*DpF2^sB^BX3R[2n.7MG[3sqYe=f`u,8bcXp;UHPMMbZ8^>&agBWD'O<[n[)A%T$Mcq-ZOQ>GU<z+7Jo-c*ie_8+9,lz%1
zL^erQgv%2_HEF!5k%=5Q2DVqN+>52qLIfeWVv1u?]`D;(3OoPF!bWGY,iK@@C0@]J%'QBf:92o5z?`Dt#-nd(v[r^hUxt($'6H
9ux)FYb3C),(F0Geb8[sdQKbI%@Jxhw+f7Ba8N4k8rQi9MoZE?[wHV[:0h4Ci#7Z:05to$C47E`.6+0H5rGNq9u7KmXLwY`s-Kw
L2:l8c%;ibg@nAlb^>fr=DCj:&.2wMIiW28WP=,gI>VHq`_3!:<l@'8<Gaj,oc]+QTd/6,-'a<&eXd]ar*/@hKhDgU`aadXuH!g
:RUE93XO13X2KgnMc6;mt?M$5m@s/_VWy]=p(O^TxA$(xJ5jfTyZyp7N^%EUu;wOWc:1F#rAw(J$%*y./a0R)[E>o=O0ot)Erj+
[.Xn5GfWP5M$)CzR%4IA@7&<NyW8`KGKhua16wPUs)n2TX5N41,DM^4>&y-yQi]b;xCa_t8ed@<I!Nk#c?O9A'2V?vtML?4GqJG
]`&dfLdaXdNyNswFMxUUDn-oiI-W*lI$@R7exu6N*R#lW'@,sWPiUhT'abPj5H&bT8aD-a5XPsPJV.1w-6zQKa?3Wu+>K&sdy<I
R/i:Y499JT-sl5PkPxF=C%,Or[QDruo%>=T?PI&w<jsrqdU(S_9qyS#oEUPZ@.zjvnmY5cc/qZzI]0/%CN?)z];4(rdBYyj()B>
lHYY5O$Cs'_^[]Q]-d.h7b`>Rz=b]bBB'1yCrL]4jaTeJI&G^Ztbw@Js!$.utfbb<T_MgjQDS=e]fF-d'r@Pd6(6>k72D>ixljz
]8eY^6Ib*Ehi/0E^XUu:x43xQY47#yL1Z%wjEeS+t/2lLrx9)VMc2uB(6/2k:h:_s+#RJfl]qehhUWAifRlcm]91*h2xa*5=';j
LOZCTFuFY+^g)gN@):hn%3ynT#`<>w;DZ&6o=nS_;D9*^+B/7/TjG6)><zH63u1olh*H0^IvV+NjP58Y1qw#GSsjZL``zByO$Dx
KdcFS!)@C3H.k-D>&P>twd98aZ`Bfi@[.E0h&S3+x#T*3-TeM.4J95,,wxqpjZK7VDs06aKDCOp[m]up'_s>rsulPiu3jozn[d.
A'x#P#Su4gi]IZk2T<JicYBr(z0(n4[vhL.3<oR9T@kNXT_sb4w?L=p/Lnw5jA?0F;2oHZn]k-qdRil>(Ws[3_pv&B*]wP`JXJ6
J%**bxKaG%QvL:2C#yr(kv?)W``=r;&/^Em@7pe!bVinZUo_n,FHatrf'<!NNRtbAY:l`48)@TrX:+z<>yJJqj4wqDz:TSZSA(j
7&hvYVENPFyaj6=a,p-Rg>KE!(I@bm-,;'znLjX3MAGJ)3rLanF5-qnk/n,c3w#'x^tJ&pdfCAPs<Q1?[<UU<Lwflg'M7!2pac)
4_;LNbU^AsXE3>STev42NB>>r(L.bh+Nc/xhEXdY=h)P<O2$eDe@z@)RnOZn'(DmB>Kc:u9BBPPzIc.PGCSWcm2j^=S>vIz7f)m
R*zf,rBUS'GXvF]bdXySY41JcPLYl.5zLcjg441>#f>DoC<!sAxx<q+.-lmft+kx)r<pOiD@0Dl6C.cUvl5_`?(HGU'*LaRMyL?
C[eFfPj-hw'&*U1*Tt=S,:^*j3ueaaqiu1NQEJbt=%T:)+j0$coas_f``+9O@F2od,N?6?H+huo8K_8KwWk'rc5Is]!FPSJ-2S2
9b2a'OL4t<&u*?bU1Q>a(/nKRfm>^+'Bu5dKCyVYPpVjh1I2-vP':ozb!kw4fopscLUv@L>>i+`bM5^'xLRXrJWb/xSJ:r_6l.z
kigN6pB]3.#vAFWki<Xw3jmx&zpI:[[R2Kg;*op(!r7x-b#2N-b$KvWjih`j?HW+BrIx/qe[k-tN6b>EwUd(!JUn@K&o8_O55x+
/&DUZOW9DE_3LvtQh)V&QX`<FYQ5J4EZ);5Q,<Xpv!N3Dvav%SMTs`1-yEO&FM>SIdVjQ,!/cb181iHb_?T^e;+@^aG14[l>^YU
4iO8'lTeuLEGgZV69SO;a5yfq8O.Gb/eypRHe'Rrto;<xAq),lZT$xxRS1Y=wvmtSA:M:H`k:?-9[s]3$vIi^H*hs!j!@@!(lZ/
e&xQ[gC-V+wCOR7+$!;0,akS%5mY!o&/7=x1+-5pnVJJ5Mq4^3#!)lxhRAeimL8ma:FyeGh*:rHffjwf^8ja@0[+.rZ,lAbC/>c
CV2kV+7'(]`rMX:cPGW;Gy>jvL1^2CAP*?#*!X,EWF:1vUJ=k36f0O?87':V#DLxQr,th9ZdI[y4hr6ZBWCTfBvS0Rm8v[&Z[a=
bj]Z#]X,;<suG0M`>5(3LEpVMNdohV5?UBL9wC.G0,$iSR[2u4,@]:Tf`!b#enJ7o?:GHfv(0zZ6NoaWo(^xTQ$L,/7*h+FVKh0
gvDJ-m^n5Uaeh_@Hc`<*_)JI`#Zeylfc/G/eqfxdKRWIYLhz6ep-EALQ?:-@:eP'aZOL%tHtl1kP=Yv^gBes2+gkwE+qlGR<(Xd
.^gwgLzi5%;>XXKB+l2i;>PJe.Omo5[M7*eTAUeh#s.[oB.3uK93_O`,,mD86[q,<5f>^FcXaX>mP<H>@4@Q_$)]5G&NW+.:#pf
gF7_!Ns&lw#y`KjD+=LB:RG]kVu1gAc]7wH=Qk'OJ(!seW4e/.$8R2y?[4JK7e?W<85ESku&DUG;czQjVS%-5NP1D1Z%]Mrl56Q
?/]X:ba@>&AxVgeB*Pec^!O(R.q@o`2#gc_i]j`,(r^5EpbJZdG&/GQpVG0/<F*Q?f,_]l=J1x9Au'Q04IsZJ/6k$8nB+2WH8m6
/H:ufUjC3d52b;_'`N;mC?Jg9Ad&I[Ax4d([KA;o7f*(U?YARqL>ykWS4n>mPVcpOk1J1_>Kf4&)@_KX-?KOZgcN8@Pplky-ReM
I:eo+[y9UM<G=;Le_k4w'L;MH%=*7b=0J#)Tfh(/vByRNa:LvpN)rUrypwi;2q=j9T2d-6%qvvsnO6.He[uU=gl'Jt4_]-X#JDF
pGOKYw?4fE5DNE=I`(SoXtdeKfbo_Tp8:0CH.&X]u=,rY?*_u75NJ<F-JxCzY6*NeukrJm<%YR,rMGEWTv%VHM)r1U1MzxD?V#1
X26_/?c$<yPIs9ZjlV:4o51oKTEX[9MGiAs=&IH]OLWn-$U`fiAjQ-q);dkXp%O2jF.y:0/0hY8d[N'Gf$HRxl[KL^PpyJVR`'C
hHw7+U*NRH2o9(4B)6(#$2*Xd.-dQCtA7GQ;SUT;n!%aEgEvUN7K%Qlg[j=l*0AUd3tiDlEqgOGp)kFjQlgm$zFuU4-Z2oK74A;
;GQk8d6d_%BK=Fntpuwgkhv!Ytd`z/1>==bO42.h^GYFr6t^X)NU38GO]>WCn_TQlcExVqfog'+7-lq%f4>3<)AwxT*.+'Cm(BA
[h7R?F#14;h)nx.A(pwikxW')8-&0-M@wX#]L98Y:_3(jlC?A9)<Cpt;QHRSedi`'Bzu+ldS1xaq3(^V(wW6owPzVU?v2GWni;t
q:&K3aDuu;ag,2Zzp@S!Lus-84NGcE!Dl0s])so:<oX4A`)=ITep7N,<3G8.5m#GRL`t,Htr-=s,8`ZZ+_I4f5ZJ^3(iAyG_L!3
5Z`K%;x+j^jG[@C$$!qOAWXT__e[ft+@K__Q(iKU!6+V2yK14J%u-SYJW)RcPkv>17t[p)a;VFU;B5?kp19&/Ak7.vUFjxLO9R=
uQ#7szE48DMyxxBQu'9N.uh+QXMbk+k4saVVfK:&$B#>:K(.AFxE?D`FTs-s$hNJv23J0T`.xbB?M9OL#0PS+A)d1RDsI@dmc.S
.BCyZHKUFRs890!$:D3%-j@[zsjf#Gie(mD#dF8(y<7X>8P(r&uwRq(af:?40LZ4;^n@FF_#2QI`cZH9K6Q!6C0.y[ia;oS'8*9
Q0p?dqu/J^F<?Z^vmok,$((0$k%P%S'2P06#-W:(4Se-Mc`IP<-zkJu(VAX`GGF)]kd9_,DBX<H8p%)J$pxT]3LCazmBDe8lSiA
]3N:(Z]WsW]XFMn77Ia^^O<5M/8p3_!,Ppcsjya/T!(*TvI>4^[C56LIA(B7cE30gt`VSYK.J1rK>R?PBt^'BZG*QgQqgyVpFEh
#n6t@GK$3`UC4__6?j*Pp/%.bS.GU<xRcv22&&$o!rE]#7Zg^=,v`sm$(<sEvS5i8.a1F.V[]%GwSpNHFkZ@)Zfg)sy%#p<w(E5
??h'x=cd5Z!KQ!)r/VSOMjq'fAS*r_=`RpJ2tHhMoq_/ty%sV1jBBqcqp=&%uo^Pym9q4L6OtP.S@tqatjxUc??Z!%(S,rxJd77
1<2vgT:a0jCs_*%AuOiYPzbBx((80,&OPMqvHq_x+TKM)AzlroZ9/SNft4Dlbd'+H5NtCF,Un,Ma,i6LNBOLjr5o-!Fk4hcI%DV
Rl+58&#za;I.^Kil$pFT%D/7f&,uG*uQ&:DTC)Q(h,gyPD$6IPO8b2ka=&/DwN3A]#42HAY_GreyH`%=M=uXCJ^Y&XPjFO'wcGe
3g3Mb1y/f1$sR)Z>FMO;guz=VRT@7/H`$LeUvHu+rxsGo0S&Vu1$UfSf';`F.l=7i#Cj%>uKZ,c;0JQ-fkHd3WZ*]=xB+-Bj?(.
uPjA0yh=$jre4$H>9kH`;&q8GHtlyi!YI$P%Ai8[wGH#HQ;D.rUKbLNJu0*J=3-TPfz'kKZE=AG1=BVDH;><,&wGTuzNCXFM-h0
5'zfs1NyT;i2Xs&kP_qn=X0.0@!@q>+9C;G9QML3NiQg=xzcQC*/tR%V;#J1]OOVuTSTQ<p*Dmjg6H5n>!YxmqQ<z.b%QYy6f/2
VYG%[K^sv`mH=:0e)>:EHc[m/)Q6:Q8M:V?K6yN7lrnWq:PZsPl(60#z+TG6jr-u-Azz/<P_fcV?/v`%_@F(cqb$al_KzHP]ptg
-)Y4&auMg:2K0v6@PG;2x6.@V93rG7v:Jsc=DPV.-zQ%*KZEyJ>((Z!r/&K&D5KEI92-4K,'sO@9VOt.bz5RY?h`(>;0TZ1v:-F
]Ue_kg]#>QhgdHa*=[Z1/=?v';(`lIRI1d]o757<De0>!B^bSdhgb(NrkrF*7Y]C=d#]gHem,H.-yj*V$PZ0&X(0T#o12KMJk#l
8ZMNe]w5rgr8`Z)9`G79f04O5b&z/q#jzpa$977Us5yu=Q#>&I7^i;f1Gtr_1ue8`A$8DywT,p1w3yPG'IrMXCAVH&Z0%y%*0q5
IZ,Zzf>5cNB9`ux8e?q^&=g[[<_pMpdKAZ=AF[ya$cZ2iA0L:8Ld?jT<5Neut5@DJ)w<sB^2P>QxC;`d/ARg&r^&Y@!PE_wmn+6
O(f!Sq6n:[o:EIj;$iTss1Mp8W,^WBzUH@Z@03kEb@V&isH45gklk,neT/Te[r^+vk:vOu@P`5^K/w_fQ/&Y:BC2RyWh-hegS>4
F3t:JV&!KJ@d$N(_A7%t@nEV*WdDRk:9blC#Y:T=ML?)VU+n@zc>I%<sBDOtsFA`61Yodh*iCxP[n5L;4fE:OV6n60'<K3?sj7)
xsoxaJo0ZtIB[AG]8j69F7<Fk<vDuhz8k2[e#AKsyNrL0>CnrX`eaV8n?XKTIK%_bt_xBy]&)IR9h0Z@==oI,bnOPwbr,w'AS>,
h_JH@gbuz!+3M.&/ptVJGiU,mPv'P7bRcS,Z@]+uZ7Gf`6MIex%^5TJb^r*Y-<s<;)S2-91hk(t_2Y=hG[;Y-TY;I)d't'!i5qT
S2TQpPf.3Af6B3.<$vQ[YCyRnlZoC60qAQ9V,X::7xZo$$uZpa^vkY+2m)N9&w3k+H!QuD=+j^!=1=Xr'JXt)(UE!j^[(*sr&MV
<$_fYN^z@+:?hA>Dh6u6Td=(tm'.cmZ_C(wg4fg!kVsTtXZ?wGTr#o9*Fkn'A23puTUibtFPt2ZByW_m^y-Uv,:Cq-,K;^:tDk8
2[chL7w'sL32DQsZ%$:nU'UB7YeX=L2Qz&My'P_-6d)4UYWB:Ri5q#b.hQ.wQ*X'@d-ynoBkY/Hp:7P`il1E=ZoBRQt?4pk3Q0-
Wtmn64&]z:65SFUY*[LfjAjSy4[zY>NIpoaELk-[?+08QwP[XN8@['#EJ+#2[/y?<GhB:>g[StaW*xI;h5=/]9ooMMD^v6UwrSu
tk)DBuElHp^$1hZ#+1^uGlTTn1aTm$GU3,r?G;a_dRx1Wz*Kr;,,)_dRF-3!Rm831(cMobD+q*jTP3BfYc72imjHFstuP9n:UL]
/(XNQGkI+NHxX6I^7B=H</tkW#kk`mcUHeu_3]^E_GRVN8OR%kzg5W=kt!L+T=$a4$H(8Itf/O!#KguM8pfyk;`T;A9bw*zD<(;
Cgft14Rlo6GKDu?Ep`o2IJuP,*cq8JK,tYtYeQb4Am42RWo;YX>s$pGTZ3A'3*rlE2=c,8kg)//eb$Xi>#3EynOILCd)ri-4v/8
.roFq]#8SP]]#x=D9K:?t3fgZYUj$HT<>KlECC6hXI+*g%@Y.Hh91;ZoJW7c!hw:dg#[Kx@S)>eVWWj4qMVrnor@afXIUiPPShZ
D]S4RiX)F@CeA>t<D(qYu0zro_('qgth54G12Lk%39i-/rRmL6T)]j(0Z+9b)W=i6S>#u%$j&gU#,@KpT)DF?2Te<9L)MUP3now
[u@wu9f5ZqYJ'.h*-,Q2*d@+R$*s;aqk0<C:HyRg@TW^rh(:^[2PT.IyBaW[ycR-Y5#A;Bnj>c'#/pFgQC3!SYwcy.+/'l&+JdJ
Nq=BHvP#ky2OzIc=Y/'RniLGy'xVr,<]C6G0;@')ASI5(G28?S4,P.%*@e.[?qwdJYtw6;34oL.J5V;?$NzB0Z=DUzar+]iU=-g
D#F4N/vS2q5'ya/'BVz4'u+mBOv8E@O@/[zw/Pa4'979-Zu_.4'A4A=[#vQ,<Q1=(ruk[khnTEqqQa1PdFOFEk6J#g(<)l1Yzx1
l@;A'!q+u0YFRqRb&3V.,jtt#`iT*1`]R^m+F?Q8ceK.'Q@'F5K&v<E&1H3gV:g5Qm<#fHj[V(.5%HK(yP0UG-R]>@)w*A6fT5^
-DpG1yl$pY!(*ZGeQE6UH+aS2y[m.N8t4P&Cb(D%5u$ECpR>^pRSmdKjfqky*tesJhG_qj.Q?gZ,B%VXE^um<H$gZ]h8_AG2?#%
DO06]&lt9P:7YJB5y&ul?EM3UpMs2ugM,j=&MKqpCf20q3LgJR?zz;oZB[LzGVlfrY`Ac9[_dmKaEPoBR0`68=o'(bx6nq[)]GD
;f#47ilZqT8d&t]G8AZh,XlEWbu,O74pou9'0YWmmI/$_i%OmvCwBKeL5cF@>CUOg6XONw3FuuPIgEWdLSp0'RQ'E,0z*/ns5Jo
*N0g9,?KScb[w_i2B&-Mz+/j_kHV'TZ?N_4NiE?y)XV1=PJd@>3l[ABw108it)eOpO6BgdWC7k:[9gTn/iqf?<seDz`V&nQ3uY*
fzG^pWnR`+XgnPgInFSYwml5KwprXDY*S9^v>orme/FtKZf)a<:ADUT>K3V;DCjXb8D+WQBiaDb`3fIJRHKQkLfPkqkD*LZvS-L
`qLn)drA*.-8]4_rXHMnd7zq^uiyA#K2)h7x/PJ(wtv9(sDBz`%E@,B2QY#TGt3Z@E3fFUmYt''pmj83Qg<WTE6M`_ZK<)D5<(c
:rn2j?aPcsxVS8HHzM,5)M@l)Qh*fd$JA*J:IgNPhRzOG<N#Y'RU9a:lvj1cRIs-E'1KQ6p)Av<I+WF]nh`L`<rWYW&,75wR''.
0'0gZ<fAwz1HjSvnoZM4?zZrWw&BgCojx@/bNhl;TWK'r[JcvC;>o9-tlr5]G(:kyD%B[+GF>ZVK$=Ae/b0`f%Ft,L'`CsX.&K)
j4cLSkmIDenMw5tgTJ[jNj1XV(vkA<Msiz]mfrLx89a3x_io9lR9#++#e$/Vp'HGf;_y`mJ3Qp^$EQC4e(ltkt6lU=!W<8Bh7,E
+8xa]eofxQbK*MPI9<hNYbcSJJk1Y<-Sg[JG:VM1R&qBiYu=xdCCc3swOd';Kl+jjxYDea]8T[Uc)szhA##i`H]TFctzQbUWj&Z
a??nkAL;Cx0<-0:qqIG9;MS=r<(2`>x2F67&aU54MV1CA9&MHoUS[Vg?Bj;IOaxR(,/S&#ju65f8_T>kO9Az)YGx]AFa#93Z&5o
X[d>+EA.CZ[kB+FJDd);*Q'TNmUG#`?I7-l>l]IwPi[M`2'6b]hh#[BUc%hL;gIqYJ35riGnM2,o5^+H@N^U1eXI%/^gbDo*UvH
5@vh[nd.GbZ.h?R8*QnwD*T+iB@Mu.O`2P=yj.oM!TisbDL2S3'e&o,g(o/z9sMqr'RyL2)/'REi)R7#f'P7=RvQ^?*s.-=#DVx
de5HIn+VCz'gcoG@>eH^GS6XY0f5fJSsbV[.TF28wkC%!zF,Y*$&.k_FWaW%F_^TO!B8WBkP-YUuA9R)E.C9Mr^F91QpmEQ7g-?
;#mir#kEnBY7!6=(T?<'KNR%$imY'kLO!qgjshv7+iV5vf[MRu@ZWc+K#x]WEj&wz>aDfczfM#By(U<#kU%;0Hz,kRxFSQJ5;tr
jMLGmO;DRpjV*%/D'YY;Zk56YFnJ>bpa_-x:9$]c5AHyoXE9^hCn;]`!&)U)yS@Ez+!ER6lJUma6;f(+ppWFY!^b]$rX'YooxGz
lE;L_y>fMwJ;Eu50^m#rZ@4=y2qnvZ7Lj+hMG7:a4l/Zr.*#@>L=xi.wpK!+g5%yn8.s`9?IJfVxPe4&<)]+tQ%p_%G?0z'sc3j
7QO[pO/.,7iflX7jsD/v%Tkrct@:fqqS)>A`6<B2C[/J)M/Wj0)2j[n#X4h]IZEJ=.Wo-9W&_V]Q?y29'87#r%^x#*/C9G!]YHx
etw5[c5'I^s$eM_:z(cGb@;_ym;n8]=uiG27GzrYLaT*>yDdMOC.-P[W4f)9d29@T!g;=Un$Urup^afZy?&uq7AEA^N;S%zQ96N
K2XEc_A@P[y<d]7+c%>'[aJM%`s-R(^MCgK#q2E&Nnc75!W*Xmx@)(T10sYd>&zgW:fo!S?b4,.njhc1M)JP2kZI.5Mr$;hg`n@
s+PZRjV/`[kGBS$Vwe:%CwLeM2]>A!(ZSZA8k))bqVv&Z/vb]#*ryGig7HAzke*gLZCo)D5X)$W*t]kETjLIL.uNiFH&7G[%3a6
vnEf*NMQdu:1f:ITi'qhC&erz2+7Dif9*v`IRTOde!0*0E'fZ#bOSrK3z%sc3l-o=vR`L.^GZB2n-s$>JFl<XO!mOR!K(-yu.)R
I65MqlzL<]pL^3IvezRUbpCr3WpQ,DWumk^a++)jExl/3kF'4^?54+4P_?>&i0?3Dg8il/;TaG43`_xnB;h1711+![!Y:<reX@9
iTmQGi8K#In[P1V(?Ouz&2o[C0:B#8M:,z(bctU;'V=i;H/9YB!3x)NWTyd!(tU8Te@]o-=P,jAZH+KmpD9A[7.*z$,b#b8E!A^
?Qj/sSH^G^;Kd97XbW?Hr,Kj-dU9ZgO8sPsmZ'+UskV1e&l0ItR>cx$mzTh0OmNr3h@i<m352gl'NKME#9F]+<2;#*[w2w(zi_E
wlv]d0n7'0)U2$lKKPm4a2lnode<']d_w=_79OiX+9_.>xPwPZ/C<Flp^*&69SPd5Dh5*O,k'TG;aR8xz`KwYka`)t`r'v!BH4s
F?twl5VZdSg3'1W0UneP/2546+oiO&?UYC<wd$;V@'[x'UT9a0EEEhR^oB!WJ0+c(a-pp;)%n,%a.q=J9yVq;cUs2@hBAj_;F-1
:gz`.YzE=rxEN!cw1T4S1D1(h(&/39;&k!2/SZ)5Ow6&NXkOJzH9;n_9Lusro>W3N*gp[rO*I+ics1D((BCy;H&lE15!@:Pu4>/
;JQqvP7TN!r@lnX<65T^=F>3fJr(E!EA&5[;!H/8.gkfX]bK1Fy+Tk/H?ti=h61@k$Wx]p;`k*w%;(?FSRfdZtFPBFk]p$_U#6G
OqWK^x:WC9EgRkh^Qx&RAKQpyp7dm?JTHbx=MwMj.OzlR$NP9rr`BOiHuz<o#B^^F@/II/'=KDpHvz+N,gATd$izLx@^1nKLFq5
ahPC>r;'!2>Fyx0PE$dbVjy*DZPZzZ9b.?/b(Ci+j7K4I@R%X5@Ttl_jJd]TvQTlsIJh2P5.dMMW>gUMy)8<Vqk?MNRAH?0EtKu
y]RoXrcFIxDA3JdX28]1v`9GP(H>8l>gGW<Z;5=T?;^Kc1nd^+:Nw,v;*M$p'-0$.l4x-&r]_ln;mM4NAq>xP*:2p9C2v;4]!@U
$Z^f<Zdh_$^+A)2<xQ,V<50[5ha[CqAG6R,`ii-GLUKF<T<-rIHjn]kghT`1BBAf3LHn)BIR<g3X0!-U^_&k(YF9UMRV%,/?0_A
9;nQMuYxUG>'_;`wPHd_x?yictwfxTKby-!oIK<+;)PK$4@GG'tv7)HR/[/3:rqu?=%?0!G%H55pWdV%M():GZ+@ZvW653dkl%%
(A'Q]:accd*Vz'bZQ;TrabA6J-75:E#*1@'zu-3JDP7,!q<i(3f!_2$S6t:yum]t]N&jO.ML9LTIOc+hS<Z+k`O09ZDqb5h;S=I
Qz,jD:eFI;_+h(@'GGk-zFKi1ruTS:^7zgzk[Tf5('>e-2ZeVu'odW6VuEDfM`U)2Lxy/.).KHNb[mYaCOH3Tws!YBHz'A[Y-K/
?x0WE4QD_;G[>I&$&-hEp:n`!D9b<6iHdVmdBHXg@V<hliWCX`[lUQiED4fdG[cHo$+Zs-XMV&2^c0^T7tzU$&6<1O!sD73cd$:
<<e/lE:kam$pcGnTI7wy/1#=sL4c!_M=`,t8B.7v9_L:^wPUmvH@[I7WpHjyKoKE?a#b17qG]kWkBK0fo<K&BRv^p!z2sW3SiSf
6!^):2W@/[M)Z;0j(Va+hfz&]:WYWrxE&*HJGyw]i]1s1S7`P5B(M/Uo0>`n]/*fA!I%+[*j%M;lpDdGDl@M=(yf!zr`f+Y^?W*
oTNt]``bznGT]Gp&Q:T2&:Q_bNXE]kUs^S..=P7<vuP@j7MZlV5z1C*t(*iv@=[XlS&9,,7fzYxTl,7QsLC'v$;;<6TBKC*xr7y
1SAc>@t,*.NElaS:lYAQ]$-/1Pm8$=vyz2G!PBBS8hdx11HT:GYvUk5[d%S6=Z:2*iNGfG`_s-_W,<;8Ldu:w@NpIgmb;#WO'(&
ET3.8n60YO<2NS6W<;/kbUN:vis2'F7e;FcnK)pHQ/[<3)4`>?a0h7Y$):Sd7_6y1>w!B%nsT6*bg#Id?wg=*f:8GokL](`zFLP
gL`)(1/z*B%FxvQu8BBIM!/%:sk@6SPxqykEFukyz=Ld9)t+G`w9'k.mD(>XO_&'LkV_ZROkx)Rw`R2(8]X:K,i_1c>do&RRS!;
UP9APk5D<[p)Ga/?]7qJ@bQ<-rEJM=s,VV,l=wr+4:WTn)J9hQj1MzFz@#s6[pXm0%ScuYe4Gi'2AcE$650RUO4F2O#F<D*u#eK
ZD5IK2=cfnn@U6bNKoiZurPS_XqHJR_LxdHTt0`##0k`A!1?`NfpM5%@M38PU4hOaij3GgJ9c@H'cWx6hBmQmm#YQ41xS.$7#rw
@@-yk;pKMFYU0l$zIjsucl-sVd;(9>Tm%H*76#3Id'_^(iPubgzfKG4lYY,ryb5)o^cy'3y_R<e`I%Pc_D%OQw>Z7PTD/?:y&j=
X%q+XL,)Gc$erJS]4%t_G6A@!j&o1w.42,Hd$`HWATcWj4BHW+2]KH=g>_8<vM4Y+mJWk'U)8/gP]9dkUeIXzi1-]U'A1-w$w,a
%Cd%BiNWaI^=^s+&uV#va'5-7m&TGrE]<_L*w#fJwHha8+ZzS-*xBzh'wazH`1txps2W;jNen7uZWL<z:5MYy+F]TSFuiGHXj$s
Q`Ps3AN2CW,4qX%U+ij_n`?ZtFF]Yj8)EPxTssB+m_m3*w3c@-/hJ;_l%]'YdAA!ds<].Eabu_5(!y##MgbZ(:vYK'O#h?siWot
D$ki;N<TBnC=C]/Q$hPqf;`a1Q)].oC_CnJ@BC6VXbZgGso25Xn.KClZPhWPEk(S-_p]:`IMIeWbSnN_&b6g05q1Qzo^:95BLX'
nChWyvT&=sEj[Efsq+x'5(`wArN=;,&H8VDw7](0RYv`+1ZVv+bD'df]aXESu2]^f6%>X9:+X,F+bEH(+is7%3oyC/'6sg#d:<<
`c`/u:8YyDrOXx;3j=Pxw)u=M&4+Z!pjlH/[33vQ%wdLP]P>0FTBa(rMq!zH=^1iT49<8guZmJHj%]CW/BBdmE-tBsO+6gmR&4]
pG?%`G6<Cqjg5pU)$NQ)%CxcTa@!%*`SLDWDHh1SVB*Pa8^p;YMj78aa7N'$zF!1QdcB]]jNd'*oL1>uQsmBX06Od+g-ohcv6^`
'ykGz!&g6RSpfeITx:8&('NP^P<$1C!Y*tP.^66:On,h-2<c+Vw[UlR4_a&^:_%?>Mp6I!^k'LoQT=pcF;!I&Cq.7<(G0kpZ3X8
u;I4dcIxBu<Dfa>Xl4Jbw%rKVLW9?GaZI.8)VqFx;H,ojHLjV@m%6Jo9TgX7/0RFM9_-AyeH'YPir[;o[U;8T40$eq's`1F9Ukw
:;=oGv^[$=l2zPkRn>qsBfzVli7#si3yX`0c^xkpT'W)UeyXm!m0DJ`zo;?Yb/cf8CwHPL+1KBwI;&J]]l:SF3Lkp-7UiB/$SV0
XA,K1+-A0#J(L7cbdcf>Qb^hM=]Q(Oq3Rr?dFLgalxQsiA!DkWsw/j9Z@8@Keyg<)co1k;O$RzqtJ>8>q=&?wYfE?;QPg'hes@=
[]C3/#mCX-P^6Se(LPKQuZW!n(BYEP/N0@)Jg:(#_fc<Yo64n;%;,?[$mTd#bzt51/'^bTJKAi%Y2i`Iu5T^jAb-x83`no]d_wR
9lX;_+)1.?G#(rtc:x5g9=;T@z-g,@7jsBy%1Od`k=hgO00JB`-f&x9Iy7b,P*m1>zj2)RIm#Ys^-($j<A]N&7jKYc%g*h,F:7=
tUJEB)!X0;b_h+j@>FuPCC;x=o$7Hi$1ek),v<ef%_8.VG6&XMKmhk5wUq#iPo!Jd_!Ez>ngk059nb*L'$7y%RUT[(lfa._K'`a
SR&[S]TDqNy_A;`I4+AC$#21U;^oo1wy4!/6FbT'KwR6#wdz:mtE20J)`b=y&37z@@NQNI7&3353-@:z2D6gGmQZ5PnD+;]l-Ko
-XM`.rmDr4)rgbDXEk3wcwvj?L<[H?*CPoT-F),Vw9VE9GkA1M(>1zYN'T*gp%4ZQ*cAC$TtVfY85'P]MnG[DJ1lso@7cy^mo@d
`(;+:!`OgP[yE*lkc;il,pbXKxF4.Uu6I&0b(5N)yidUz_.t7]u3JoOC9IU,@M?yyiVM6(5lPw>i#-d>J8A9`+,&K!sw_lX7O*A
J)cxZWA^rnQJ,=$Dj.<@]Cz]fZJ'Rf7Bs]79:Qrt>84pbBC$H:QtI[u#9QG_Eo2*5@*!4ZADiV)]Oj^f;9v`qq6tj]o[&@6!Zs>
l5B2yyJTpntN=xnMtDWId9DBJVYZ(apg?i2Okq;Z4H^`P>BbyUXUU3u2h*Bwj)hCU;d!(-INK<[(f;O2;[][tOKyC%^<T2CE8gf
D:gg,1u1zkOS<s*<4`;c77iCdk@v4Q^,>%7KQ!Im6MvoeNufMf(go(=[iq?da[Y5S.5?jAG_.]=Y09v'.DPV0=%^tCq[!ow!.;?
OulejONx5.aOjoO$Lvtfni^qN?'gG*m8[Z>bxn'i9xG'4b`SqX6P?T0rK(LtaEC3=_Z7>%WjMxmTNXcX?Cd+X2eO;tg2X&f5f3H
l5_E;$XGfoZncXIG1[Q1A_4m/Edie2xMtT3,j5B$tWq:VLa?B!<Nq9]nyjhK21p[<'7DCPW$MjND$sZmIYmS<['OBpI5#[<^RRr
N6Y]h]ISkDsn572lsoT$7O-VgB(NjSny*)a*,.V!47o'xe)Y)N,.HI*r]V[]f+UJFxHNy9Vu5:#_9efy[Wzi[bg7N!^_65IH=&E
f*q]2*3Oe&STc!<>oVbyt4#SKI48S^oWq8zW1LQunn8Kp9M]S=<@N5c.x)+zpf5$8oNHmX%g/]a/(*N!Q,<Nvvr*uY@&2#@F&[>
2s_Z#XJ`y>uKUcZ+u+JPV:QN39cLH6Rs53iIj/U08m-J$.Ne&F+&+A8)skoO#_yTiN&l3!=tKm)z(k_G9$z?d'8r2%fj.:p]iXO
$imH6nf,O$viLOzUK^GE:0uz2>wsUhD2X5hk#%Otdj+OrwHF>gU'^+IT7CX?]@Yll0WVoBzK`S!xWk8EF=BTP)USOfmXLSisfaS
$>vp=%74BP`.]_yUy^GOPy-k@<4iiI1..zi6FCvGWrbxR1EA;/r3N09j5muGX.J3Teh5SuQ&4?c#E.u<1foU^Q<)U)?%+!9cTu&
soBgXZp6WZf=o3n+u,6hy9+WX1j;ZFOx.hH0Vlt@UzACf=b`T&P(xQg(x69baxE]bfLc*/fbW^Oa'syFts0a&Cue^I>T>TJH)=X
+^E*Tj1sohp@,G7@]dHgF@.'TscP$VZ[w!c*MuHf+IOE!$PXyAH90lAXUD%mnYqk^v(NoG2Zjmz!Ew58fLHsN<Mr3<+%enpjYb%
5&qzD$Y:-9q,d2n7_xd#5jdN+0Ty9&l/CkG;8Qu8/ejgqug9_07=f49^Y&(jB)e/ys?E:/VaDSLMefE(Co`E)S7w,h07-cu1[%i
o1niEt%gT&#q0;.lQ.'EXO9!ab/>1w1n;ds/X(QirZl5a`Dy%HfR3irw[7/kw&AwvH[Szd/bc5Hs']3hYJjUUM)MI3HlpPqo-r1
IAqS/1JH:%+8;)-50c8vy@m6FBNJF^'$r[Z[H.d(ULES+/XQ=RxSoe#MA7NF;drbE=Y(C_>k2!k5L:(nNxXhqI]a$p7)IF?5a(U
(+bQtUMGhVGDlJrLwYjBBYL?8aPOxD>rB%^2(mK3(T_IC+Jy/3QF0UvxQObVCYSMX'wq2nQ7^ey:+%_;(9NT3N6fTe[,2/gCTnt
Von)R6<u[OM'[NcucbQO>3mr9O0cM.spr:6uhm,IUbH7mmXJ#nr43p$?`$EBsVOf-1l0uWP3RtYB[>HWtV^[jo,'s:jP4.noH?9
5jq7(=@+;`l0Cap>KIUUrL15KGf+hsF02::#YpA<PX/Yjw3opE[Osqxy^v>N=5<1+Vq7yG2o3Pqi*ix2pRgxe<qxNC=($xIhyqX
je9v0y?_:4=T?C7K9iylLQ&M,$nT%,JOsKz$(Kk5D4Z+6sWE:<,GN;L>%az`Xyaz!_pN3Q>VuGBC=S+bMYLmDe:7;eP+n1pua6n
2=tp31Yc09?S,uzPrGGU@ux0[Alu8GypA!wm.QAP,<utwT9.#9u`K5F3XH5<Y6<darhe*ywT;mI>BuYWILRY+=&aG-(=;2xf8?.
H*0PbdS?LL=>A.+@St#)Aft5!Gs'q,-XYx:Ham68b,Gwg92-VLBW=qH<R:5^:Cw'M-#%>T:r-..$T:BcT^kqAPV/R)uFVq.Sa2V
-AcZQlWBi42&gK$@1v/z3cKM&`9ZXL;AAtO^G(jzN/$tj]OTX=6ZH=r<Tn-h*s13Lrq:ah&iEL#k,ij!##G*:n[B13D%,zMy%NV
inYtp7Bq1$Uh]N`#('vT5pdDF0b9QU@H+s%5Ol$63c'^G!e5nq7#]WaFi&6,kBE?DBqczGm[*YR!(&qD2UKSX?W?vS(uMfclMcN
C!XO;](.$'9xnho[whIw5Y=`D/JYOmo`fe`Ik#O1r^T6`tTaQ?fHAeWAkEUGDw'%B?gieCv*=&+]xS/VA'EG6nkRh@L&/kja_%S
R!n9EZI9Hb'^7U.!j2!OYw;jjj3a*G[iu50wvYJP((n:)[+?i-MHV!5@I?=Lmci=T[-=v(8Z[tz[@gSIE(CRm(yekU!ehs5MQzm
dj$ZuLW-lCKCP#yYwJ-GWuD')?V:8UP[KjF=kRl*)z-38l_/up!&:JXa;@4$FT[!,f.VATtx,9kq4!%!DA[=5<Y=](u&Jh+.iZq
-!<(D/kya<Es4XL);_CU!V7<$(StxeO[<%k[G:2gu/Zbow@b*dm;-!LW?Y#OS$+Xvd+]_nzQl)`C<*eM^h'jh#I<&3!YeN`)Bq+
a,H'GY-*jz`##>&I:d,E_,'+)l%N>px>UuUe-+3Yh<MxIk4qFUWk`nvXXBn#qYJ(8XRtmHnMWs[7(Srg_MDN,QS6=OERy%0+t@9
L-:;%hZ:nB(/i+,@9#<fL]i(Rs;<F/^K(X5bIO_bg1u/)'FA#JB1fzYV$cf,xjoZYLZ5trp84gtht/wE::oxb]3u(8D5$kkD:?.
w#mEFNC(tCZ$D>L3Z-CE,8QY5.wcY/d&NqVMjBbQ#P>@N])E>/F(:)<yYO=@;Md#]1a+C*KFYX/YUBGW$:]X`.TY6+RNht^owpe
=.FBH;0sn_Q%C7kh)7WM/H5O<r@MYBLY12R#yA34Cc:;BCdFuKi;LefQv3k%1YRn403&N!cbPI]wvCI=@L:s<vvJC5X]n;B/oV]
rFtHq`6Q$QDluA[qahPF?<)scD@8*um'7l21!;rWIh5']xjVRWDSBdJB]&3d&+A:L])@<@,UlAxi+`naW:4!)/slEN<6ON/#5xv
v``5!CZ3b&%&vk(wi5,v@4cAW!g(IsA(]M&i2#S])PE8o1%(UAQdtzvb(v'ibgaG;UKc].)tFvO@V/FC=Cb+hQ`e@l.6J,bb@h#
^tfOW?6niL0*gw(L<lXqFyW4lE_B@!Vys?nHRq*a6HBkY!DY#d:5xLb!a%W2Qie)3_xiUVI](Kvo1M,gOvgdI&7UTK[ZJGKXw4q
=`@xpx@yBsId`=zQyboA&-w_s:6M9L)mmok%zCPIb#]LY**^yhaj=Da`km'%-l^%kAL9_H](w8YQRw9Dq(G0&5C`>`lDk'q^T<!
sqV2q6dw9&3iXP[k6[YV_]B[rTQGaxJdBg(b-rpEUlG$QruQ=Zpz[i`MfW7hy;J0b$:/1ng4uZ^2Mc.*O@uHJl<BuvH)rh0p+*a
^BsO/=:7?V%VN<-ES=+$[mwIkpoe3(2YO2JQL5oNCB49qDX+/Af5bAb/nKu;nt4'K_KtB)Cs0ZE'[U<a-I&5VroaOpU6l1$$wPy
aZ&k$OUn(<0v>!0ee6X10T;Jan&O'?z7NQNLKRBsYqvzkF*+Zv<t;IBr]9DY9x'aZop&?9Nc8L3WV2RW$6L9TircG/>N#0I*j+9
gwz+qB4_CV%Z$GN+o5'ac[wK^Sc[)Q8PwzC*B8gyhc8-Y'=4:N;#fZa_9TG3m]^`I]!'da1alazc5C_FU=&Iwwyy!S=R=P?%EL9
5d=F(LAJ<NJL?DSrWKSq-@sMw2YK:JxYL5a-e18B9YK;r[grQ:zV:3L1vbEcY&Cb5?l*:K(K72u4]ngTellgo;&$t'Df@b6Il-[
IqgLV0(x$!NwIQ'E*+X_]lU`=3`spxOIg1@zIV200e!`Jnjust<i.My95q4Io>Yln5-JdQ33bfC8Z)D%c):<C=c9d[D_?=B+!i[
rX6dF++E2'@H-]]bie5qEn,4MaX7RviDI[.SKW@yLR#wE/J7]S60QH8*=ypLe5l6/$!fbzjSXiTML>CB^jsv,P3C8]4F'FXMNkL
X[Hl;%.@??ztvb1^C!k+O<7WANEqmpuI;@q(czwM9/pI6c3UMRM=??:@Ibkrz=_QbdA8L-AEj(;U@:bOz].-E3([7O(WO12^&K;
J_cuLlc2$T@z3JPv#h'bpR;r?3`ezl3p'Oi]kBb1NvbKG/-[whe3cLuRG55s#sMz^T((r=#0E_gO&6Ro6k57<:9agW[o;?&_Mj:
xCeftyZ[WbrfJ=Yu@NoW:^5n=MUQy/k?z4S$uwzcyB]e?rvAfwYf$7!V+eR3YkkqD(E#7Y?ZHsagt.%b!B^Ww.WjNKZT2+81i]]
cd2(U3&ygdMk;0Nz`[0p_v-@m^BL3&+9ne(u$TkVlr>..$VBAW8/OUn]n3>vYP'6i$<A?>#E&=Q%jT[m('82-O4(sMbKAb$0Npt
_y58bdNA+L]JR0R@%0;rb1yLj$^XQMrE=w0gP*:26Kx?MUgpF[q6aMUD/AZBR1SolT_Myw4WJh!nZ2h?$JG*1nq[>e_RU%cL-T<
B-'#(79ucC7Q92Vsbp%6+)y-.KIsTx0]yEuEWFyW8uMMeKDpQ%8@O#m>YWKKUu_&'jAi[-(5jIbS:y%DbF(N6%r.Cudnz>Xrk&q
%nbSSu/<Ckg?xPq5yNXcao[C'hi?3h&ZMHVpt*@geJLVh>!04)tXwDZJc4Q.x?3!(3(H9DhA3>0/WYVKcjK;j>HIUC(?AxuDCf4
mN`j&VZV2*wf4]wI//'w'Pzjs;W<)dtM=En^A%x*woH8B-!wfU7hEp$yW2^1rOgSJvcng0@9atvwFC/53w&HHk5`5[QVvY[oSo0
WXImm:9(Z928zkYF)YjJor?rf8i+.ECHD+HdJn=jd3TUpiP)J5*tJ%E^#Hie04uMA[*J.b,W>Ez/=,fY5h<,62Dh5hHHjumEY1-
^z4h:Twn*K&/@mSfg0f$tichW?mUieIK9/1<'S#6Ck#P(F,.y_%_yo^bX%Y(!k5XY))To.DXv#mgvow126*]0C)t)5d&V^E/][T
%HB)zfVCfEUGU$M=N`0*OQoqBVrZ1/CM48j8)G8*rOJi0BMA%f@N::WC^lpUaK2!:@$SZP[YqU1'IKj+HGa-g;f!sY&$U?b:+DV
tjlv>)8BQDLu.p00+##LcIrl<EI([Dvok$zQu?$[O]'bHk`6.b1],RZjJ4D!0+6?skXo;&i(z.V/?9E#CkU&)1-l$%&9K.*y:wP
NeKR3R=D)`&wZ'1=>Lc<H(uAf2%PQIhT#v5'6($WMXHHO-.xLDhDb2Md0?]ri]Vz.T]A=rj5hPNlW!$w'eZ`ytK^qv4J`/AfxyW
O`8$[3RB;wN^n,goMyiZ6.5)fE,$F3.Dj[*7?v[q2eM<.C*%p(7w`@xlS<*cFT-5>,8+=_*@wI?GZC<p.Bm4w8-XZX/cz<f;W`%
C;J=>AJs,mU576h2<pp?h(ED`P#iFBdWtEQtS*hZUn:f$el'*6V9+&.0EVAm#gA+Lac4!;xgW6OJJ.BlnGU8B_Xy:uFeo[qb9EY
O6rdY<w#FQ<M]nEBRf<F_Zy0V$qnPoeIbDE>UY05beYdS4Q<@]G,nFp]gPGMv^fIi$]/UH7j^$^ji*tWDVe:RSg(kO82=B8SMUU
ceVkt#2:rlW%F#yhbx@.%:J5[Q_$@6pQ=/tsu&W[>z1aru<-M1erl0TQL)B0>1HCYn*Yy;&x28nE?hBP<?8^`qT53h<G^a(nkRe
&-)*!:CFLs'i2-$U8iv*6$+$YZ,A*z4SEV5nO?TdF[NduKo$m9^r+y=+O99M:F(0nfZt_*iP.Z!yem$C/[flkPnDr;k3fAK?6[9
J)nM0=GqFq?K0^@(0;ZN^fC'US$]C^GRWoIL&`Ik*q-6k]5?&%B)Lx7SXQ?&ANg8+4(3W(WyK^/`_SE),t65%(r5*yg1.MP>X26
SJ4t3R*mP1XVWhV+D^yr<4fW79)Q>?%PJd[Bo.k.F=3]F#>2fE3c=4L2)&KF@^GkLIdnReHkLjHpPsTY_Mz9MmsICwEp(X3[aUl
2JZ2/87Co(J=y;:=j$tnqi!:DL,!aw2E-$[)FdMLQ#qH5';#n;yS)t0Zf&`G4Dl<lNEOA8LeuDf)2:_jDT9l4A9(2N-BPlaF-H[
Ksj%f,e)w:!*QWC54%+VQJwJC3v/Hex20=;G6W;&[2.&9N;dx%I=,;jG$MkL0P8Lm.`!)]`mxH78Va#=SSTY-7zw`waWku'2X<w
AAb`*E!n2M86>E;gQ`q>5+P=@Ar%GDNJQ<8B@-Ny*KpE;Om;DFI#TJ(J2BQ8e1zvU-5veogq@pTBT]tNsYazw6'cFdmoQ2UvB=?
egsd_j`0$M!_%9;iQx)xuF'zS&<YpXb]6,JwSC4zk`/YULDO7[1Xz^%&6loaOY#MIi'e]2zwEkul?K'@orW5ZwErkIx7y7C#+LD
K7.05To:t.0f2u9z(@uCYSvZbp&r=DkYMp.i/i;f/z'Gas!tdM,ps$9C/Plj>Da%/=PAm=oyZ>l?zb8os@MHbyzg,WQ5ucWxXwD
+P=_33_=iLz-C,7RN*pG7Xu&EI]<%:,[q=HO)i?W7)i^5=FMXMA4yZrTf+zuO5a^xt>`8PM<%kZKU?-Et3szjH'&yL%=v=$ojld
c)xH?I:+O<(oJcArFF;XzWAVgbO9:]TBR74f4vJQZ?&5DyP[9jnVxC+4DKff6V*tAt8WfO=!Q$9B`YAjKPgi,UxCcZdVV(tdcQI
,R&.O**A,O*.!&z<U[ze0luea=s+tIu)--b0$<@sLazR4vYCbM:<_UG#fwF!/lgdXyy]?;?JqgRNHoGIDVY/V$g^c]NnuJe>NsM
zUMX?EbwZBYvKyj+-P>q<GB=X3bU[s45dp6CM3SEh_z@[<p3[y7qllCIe%7WA&iggH._$`^*AAz*B^^mr:esoR)w9eI-x<0yNpo
3'WW8>Hzq,XD=.Ty-IMS4JtM@1*JYk@r(C]_qB7Q[myV/:%h_R@<Y;xO_0Qh@1a;n%-3)Lp>-arShdbJD9p#;RC/sT0teq+z_4P
E`q_+u;').K,B4JmEL('d'i6#_Xt#9o>ip,J4h5'YjI)uZ/-gu,;_VLR!$.7Pgeo+F=K2]^i[NkZS=fHqX?y#ObyZp:nSp@TdYx
&YnaaUUGNL9p.ctt!`X7uEAJIQ-OXSt;qM52dp4`ALHXOVn@)t4*g>F7=&xZ,#v/V(',MjEtU8nekk6+jtd*nCG>(1F8UCeOi[g
-#2CEj-E(zrfW_g73>wop7=Y`y$RE]%[c>*-7<=c3sM>>-WHJ_lyMHBiJ^=bEhG>_k*,jSBURIh#w2*@&+I)dT/bL+M.2]p&ASD
>utZoG`Ov>WH'T+SQ),z:q`%j`pzHO4G.8SI6A7r*SoVu&$'<fW!EP<<<Mkix#P*lJk$sDBG8<T;jR5G8AY^1d!&1yOXUM9vK$e
gpE'!DxobnWPwR./qc!=XVc?1(]N:nyc7Nl]bNI_FPog5YxeB?SV0ps&'RI963<#1/go]Hb%L/Qmj]6plC>2fSm(x'+0!R*X*;W
acy@q0#p//AGoMW;)U/5$$Ku?uXnfrx]_6?JLs4iv#Q7M*`.'am%7ubYeD[W/'380$lIA'd^DkJsT1P[D#V%,%Wb87)?oO+XYtK
XB8uV%#uin2Po+ork_e,slyp(No20mfcK;Z/(o47TyJi.AdeVT6O4-mqF0?/]5zU`N&/?,zJ9vaw+0f8S?0-tIC!xa_%fb)V[Aw
CU3Q'F.<v*qU);Ayyf:[oAw9*&L<Nlynjzu[t5PdC3d7Hrx*==Pi6F@bN'xHppTt5(_8Ub4J4^f%V#'w]E]u-+Jwe,)Yl/rE3p,
K7Nlj+5-=v%mYU_cw+!&@^_U$GVd(CwBbD:w9DTA;Mh>_ymMruV?^#ce.V+.Wt0ZZE5[BHUo,M)FF`kxF:Ft2q.T7lIy<=SJSP7
?MG5TP)?P1PddD,k5Rj7$Gb7>OLNJjogF#&`=zrFt'(D,nez/^Buy6VAhA1^0bH)J)f7_DPA]y4Jhlk>P!<9,.+Y]e(Spyzf:7-
q;gcjsNWT9DxtO8GLO?2H'J_jOJ&Y=I8RI$*YKDmzu/0Hj`?#A.QttxXw^2L6yN_Ik+UyZ_s.OCIjQ<UPMJl4!4v4&-hPkE%$I@
wU,`M`g'z&+XTLa5HWnhtwcAb?]G.b.])2-Jx=x(']x$=X&u>k_NnZoFGzIc!URoHQT:aGZk[51b*?jy.YLuQle)v><aFRS:@eQ
[`M&2jsjL3HlD*,!)J@]TZD94H9e,>=yQ.WD?%9V[>%qpn<N=fKR#p.r$y2m+FO7$L#scXeo2netk>rX-9=sqLJHeTpS@#@.e9I
Ks^XyloSc05'y.<]c/F0<vgC3+!0Hfn%x@[v7(V`$iqNefz/1>I<10pU&$b`WVR!zxw#fvtXCPt08AD+G+%?%N=lIKI>'S;<9Td
nmT.&;]:?4T4K@95Ri?[IW-/Q0>n_G0&P30M-eCpz<))eje#qAA8ptL==,XC.jHE5hPBsIw&c8SElgzFHns=magBJz4KxWw5)k[
:wGO16A^%+$v7_[@gi5NJ_C<3(2!;@VmrIFu1.GTBqnS_%&l!b3S2.+#m[2s*%OS.ThOdu=48Jc&C=6Q>f1l,jy9^$3,zbI_l<<
2Ab*FKS<s-^Lj!f%%XWFYFoB,+T@!nkov-R@^&QUgXVSj#z;hLnfSS:-?*H2v*1mGK84K&id,TU#D9*WAUh$x4d:w_m42zS<X9B
!NW7#Mtm.[`#^x_X11uc-(t#)^v,Ax@%fHAYFv^*t0_4o1`cLjfvCuT0H2xV]?g`L24'Y-]9@+-oBQd8+[(5<w<'!G5()dlc0Nb
]eFARdCq-y;?L59TV@mca6ra*GB>,L`jQIq^(sB=*7)>l-yAG2(K6V7SqA,o>[bRG--RHvyQz))#:&Y$]P4&@NMto_G%JgGx=Wi
T*9CDZ;rHwc0Vo:2YF;]nlK;D=9;*dX5H'gy7=9/n_YardgQr[3&=hkq$De6`m*;^m_8daO)j9(y'p$=MPFAK:lg>f_4$:ZwA7_
o;WEvW/$/qdb9Piwthgc2Mrn,.+!qs*h@':/a0H'f$V##o>m3W,t7K:o`>HZVOy5]Pcw/.;P:PqLQ1=>>OIe%)iq1(eN?(]w.kv
a,f7''WM)T`hL5dVZR^(fgT6@5ZSnf'@?-D@2$q^6d+Ib%-]E5G*q3D?9>*?`L]3CZf%xAM/RH1tz:1(0yV#W*n<&e8fVBMt6/X
@Orqu5i8W+eu`b7p;vW+8;fB27kB<FjjZiir:d%.!]^A1'YaDqT,xb7Bvrn$],-/C8-ma'M/;h27*uvQL!`L_V&4-Um!g0'n#g4
#wc2B3;LNnbT)k<Bv$T!wrf:/gYDNNywCaWcfl;k$(v]ElLP4T6Y.<=OwNe)7mYO7%)ed-Rtk>cY,LXk@`as%$1M&JIu2Uc4@nS
T).+#uy0XFd@?NxI0T5vcj(]w.851kPTWeJP[/3Ss[bft0!p^UFo8v?)[9ScmwvFFe#tguJJG7/h'SQ+EWZ-hO)T,Lp.su8R]rq
>7Fg&.xhf=K*aBa+bG1P@sGsEuz1&8pRUD(5Q78;[(%;rZ0/1A,9XpYW&XjzDD-JuB`Y**AMKHzS(yU$OjsDk3Bvv9!k]>%]s1u
AWa;%aJyndFh3img%G5+'D^ca,pl5bR5=btq^]ccXj]6@i5KhLc+1sR@*[=pCh&Ir=#QoBf*khT#AC&*hPZdQAsU5DYFw?/5YKp
Z,X^<[<*py):3br2Wlys1zF;iSh7lmxlySuo@!x#hzzyFon]?yR`XS;fJ'eMDwgtguFQa0G.h>cNC+f)/]06,2((Ql-ggxn(0Z2
,EXM'-_q,NnkCgsGAKLP&oEY?ABPLMS;0WTH-q#9V=4f4':Oy[qr5:==W-*aLF/v'pFwur1c9UDF>+FA5kWEhK_;:Ibv#ieRp[.
u]S$=ou!+/vi_k1ZkEt-4Ek=1r$o^2H,fSelde422LEtc,eH08Uu.#Ad!=IVGWqrCLOm@%CHftzl*&V1bSKb%&Je&&D=yK,#3r(
GF&UU;2op$wB.:0Vt-KWPeEmZ`AsuB=ry9$xj'?adPRz-L]nh4ke:e<Ip+E@?QbXlmXf7t]eOGTpL?+kpjR[siM6,CL2%a)*sWk
6$tOK*dxxzf67U+-?(MTD:K[R-.ldmK3f($bDnasBX'T9YA5o`KK)VtEomeYYRW2qrz.A49*>g5E^dN4yOMUm<QBl7;@G@5zvb=
xqDqb`7.#M_&UdhP8sXXb)t,=BF-F=u@]]@<r39/=KGxv++2+^=aC;Vm>5dqxT665hXG,.XRL%)qb[tyobfX-Y(>J<H[N?4AWh'
YfktMZ1L+fr8b8UFkXtoIi.DquECC2[)42zl!J].g(of__N7o%fE&PrN*aE^[O`IeJvjB%0a3Vh@3hszCCJYk4#MPX5kA1#)J2/
,]]]b^SxXi]h;-y(>rT`]D^P,2H)A?UpenRIh!C&x2]cjDhYK#<'jaTQ`aRHxvP^miXU9pYDV_h/XvWxq>kfqLobT^ju*E0]nmc
[q1Ijg).-#VdU@ZlmP@LkXLm^.oj8zx'6+/6JAN`8aXc[Np[P@!TWWrMkXTOiYXOhi>/W?N0jy#vClJ8q)KFQb_CptCSMNinPUc
Mii6Uh9tED>'rF(qUD8gYO3!:CqQEI2iLBjSIn[)1VAgE0Z&mx%^*j(3z/=qA$'&?x:.t&?+mtIl(!,@4QX!@yAn.;)5/%TYp]L
67Pl0i$<p1d(z5kt1aPx@.895XSvX_pv%`Qo#Lqd&N8`]AC.2@Z(#?wJRW#P]Y<;1nMq-gTC`f=vAs$FeAnMc`$m+R`2;uNB+x5
'u.Av-eu#WR9tRBb>e%$u_4A=<w%*Ns#L51FcA;P]@*9H_?QVd:GX7EQ4P$<IuvGO.hLn?!fsch#gAETD85=W&z4oz=7mj+72/A
,o2;GVb;tuIduS[wk]Ey2?Y-e_3J%T[9@G7;B;;-:*;2/;<L<;PF`+OT+$CcZ<r8BZZ$+Rs@[XbQs>:KEhFmMVBp5yqIa>Ji*gt
,AkX]'3_wyhnwYC?`524v#`]@&=>UlJE$crmXaBi/[s,TlLFKCxAA>ngy<VEU9tT$WDN:`1QZ<Jwhuc1z),1a<qg:iNrWIQT.8[
k('zzKgi_1]Hmz<ZTjPO$73*eF^$MF4ZcBdC[0qb.4M9tYx!+L(8_CQhl^6D/B9v8+mFr=ts=hcUcL-flNo&EfaL%?_^s*!'3My
_wKbgLQA>^u=kRgPdpTox!W'*KfE??qDBDdDIPROb8pglq*1:_[6(]Y`Ky;N3sm0suQ-Tb4l/_!eqeN(&/LkLNjZ`]_`O6_6ige
TRR(d-P>6<7m>q3QPY@a8)dgK!gh/hk(JfYQSYtQ?r0JW'@';sHmua-kx&_g;jTZi`xfzBfq,wJRv/)1(8:Rtc$,+SCH?^<`XR-
8@:/>FweJANV]qKtN?[VN$pthT1(&@i_5%bROUciccl+[hWR?r(FM.(c>!2&+<jY:Pn+=5ZT)m_Hu>sgB4uA<gerutX2bHyq'VT
g^BwlO`woohtaH-A>5OBv;f.&x`I8Fb$^G7w2?#Bot9^oHm=_VZ^3`(#ZtmX4O&nE<DFt#R.l,Ku9X(qS#uOC@z<Q^in$J6lMcj
`(]u];$62*3d$wXv%DV^`i7;CC)ctrVV&Qmv0[.R8EOqj$4<S>(;sAG:7W1]EG8m>B]7Tx!D/oG`mH0Za9[Wbs_=oBKzF@#q^<+
djQg$=r%lDd''Vrm!+pI^A>Rp7e>J).d27yWJXjEkvKH7x`5:1E'Q%Z)!XfR/LXyKYQmQr$ss's][YTLH+%-of4W1x7zzary2g)
&IUqqa^T.>k7EM(Q.Fle2=NSOXmV&nh5Y3^_5/'$<EITbj[V[$z@?JWqN?+?R%Gl3]>Q[7d;-;y*G`^Kzh#[;^8_G?0<uOZGcm3
s<zP8kIA0yu8]s9TSoF,n9WNbVe=V^S-;qZx8xbvVqbfP]f=iN-/&p^R:a9,bX3DOhAXfEOz-YNVNQxGT=4:_KQ7;`G6^adV(D@
7]sxAp().d,[VuivU(u@KO$+,U=8_5%BmhwD$'nKXJ=2W1,ikvl`LNqo'Rxm2%u+d6Q%gROi_@vaQEyCqlU4q4X[Hp/!%9ZNp@V
u5QFigTimnKRYH)S(.7xM_iFrSud=JtgEzW(2isQQGS#nL:--e!w^`OHTTCF&>RkO_eyTJBl#Ugv!3N&-8bU74!oD!8M>LO&N`.
)KcHayLau^IC!<-^eog&t*PgZ=?+yihKZln#jB.xFWNF6_.p%w6t-2J=bWFn4r<K8#[%%:caDHwHQ5t2*kUm>tfKa5Xau8j$3v3
:)WS-lQ`,JHr`Qon>X4R.u:Y2m?)SL8y3(fQ0^]LjGXN<,(E;2H4)Y9K,F;PmKl8%?%]gF/yUbI-IQ]:.nt/%Mi-/m`,^gVU]3i
*kv>JFiho2[Pd3d>&/RUR%]OcxR.<BuOJ*j#%JBH@UTYjd$T@Yz`?G$BE,Xp#!1v][`_PCiILEgBWIuBj5YdAQ00H<VjPs$;?j#
N4-8-P_>6o3BtftMbxNXfJ`DV*n#zuTroe?.u2Eh<B`yx[99%mDt?LfY@[_;s4j/O(y=U-h+HH(W^*UJ+wxJ^a[l.NW#sfw%MC=
5$T[O[+:x'FmYfk;7#du0G'8)7Bk+Ws4g+2fx$=$7BN.,?UeFcG,7WVj(7.eSMcvgJ]wTiWF-^.jza6J-TG.&l6X&AO?J`.H7^w
3sAa.?+hwu46^kyq.v<UQ>q+)Q_NH)dI%.LT;?KNur#g6NVuIhB$MwlLDDY*6`g2iC(7JQ:jt.kC%XgAYVpMjq7Sb42hx_5g=p,
amn+DyzN5S9s8i@O5U-L4A;_EzsT&pL)LCB4GxRmMq"

end SkillKit.Text.CharacterName
