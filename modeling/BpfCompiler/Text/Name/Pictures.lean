/-!
# Names: pictures

The names of notations and pictures from `U+1D000` on.
-/

namespace BpfCompiler.Text.Name

def pictures : String := "
  =1D000aBYZANTINE_MUSICAL_SYMBOL_PSILIzDASEIAzPERISPOMENIzOXEIA_EKFONITIKON+DIPLIzVAREIA_EKFONITI
  KON,DIPLIzKATHISTIzSYRMATIKIzPARAKLITIKIzYPOKRISIS;_DIPLIzKREMASTIzAPESO_EKFONITIKONzEXO_EKFONIT
  IKONzTELEIAzKENTIMATAzAPOSTROFOS<_DIPLIzSYNEVMAzTHITAzOLIGON_ARCHAIONzGORGON_ARCHAIONzPSILONzCHA
  MILONzVATHYzISON_ARCHAIONzKENTIMA_ARCHAION,TA_ARCHAIONzSAXIMATAzPARICHONzSTAVROS_APODEXIAzOXEIAI
  _ARCHAIONzVAREIAI_ARCHAIONzAPODERMA_ARCHAION%THEMAzKLASMAzREVMAzPIASMA_ARCHAIONzTINAGMAzANATRICH
  ISMAzSEISMA!YNAGMA_ARCHAION.META_STAVROUzOYRANISMA_ARCHAIONzTHEMAzLEMOIzDYOzTRIA!ESSERAzKRATIMAT
  AzAPESO_EXO_NEOzFTHORA_ARCHAIONzIMIFTHORAzTROMIKON_ARCHAIONzKATAVA_TROMIKONzPELASTON!SIFISTONzKO
  NTEVMAzCHOREVMA_ARCHAIONzRAPISMAzPARAKALESMA_ARCHAION*LITIKI_ARCHAIONzICHADINzNANAzPETASMAzKONTE
  VMA_ALLOzTROMIKON_ALLOzSTRAGGISMATAzGRONTHISMATAzISON_NEOzOLIGON_NEO!XEIA_NEOzPETASTIzKOUFISMAzP
  ETASTOKOUFISMAzKRATIMOKOUFISMAzPELASTON_NEOzKENTIMATA_NEO_ANO,_NEO_ANOzYPSILIzAPOSTROFOS_NEO;I_S
  YNDESMOS_NEOzYPORROIzKRATIMOYPORROONzELAFRONzCHAMILIzMIKRON_ISONzVAREIA_NEOzPIASMA_NEO!SIFISTON_
  NEOzOMALONzANTIKENOMAzLYGISMAzPARAKLITIKI_NEO*ALESMA_NEOzETERON_PARAKALESMAzKYLISMAzANTIKENOKYLI
  SMAzTROMIKON_NEOzEKSTREPTONzSYNAGMA_NEO$RMAzCHOREVMA_NEOzEPEGERMAzSEISMA_NEOzXIRON_KLASMAzTROMIK
  OPSIFISTONzPSIFISTOLYGISMAzTROMIKOLYGISMA,PARAKALESMAzPSIFISTOPARAKALESMAzTROMIKOSYNAGMAzPSIFIST
  OSYNAGMAzGORGOSYNTHETONzARGOSYNTHETONzETERON_ARGOSYNTHETONzOYRANISMA_NEOzTHEMATISMOS_ESO^XO*_APL
  OUN%S_KAI_APOTHESzKATAVASMAzENDOFONONzYFEN_KATO*ANOzSTAVROSzKLASMA_ANOzDIPLI_ARCHAIONzKRATIMA_AR
  CHAION;LLO.NEOzAPODERMA_NEO$LIzDIPLIzTRIPLI!ETRAPLIzKORONISzLEIMMA_ENOS_CHRONOU,DYO_CHRONON,TRIO
  N_CHRONON.ESSARON_CHRONON,IMISEOS_CHRONOUzGORGON_NEO_ANO,PARESTIGMENON_ARISTERA~MENON_DEXIAzDIGO
  RGON._PARESTIGMENON_ARISTERA_KATO~IGMENON_ARISTERA_ANO~IGMENON_DEXIAzTRIGORGONzARGONzIMIDIARGONz
  DIARGONzAGOGI_POLI_ARGI+ARGOTERI;I+METRIA.SI+GORGI<OTERI+POLI_GORGIzMARTYRIA_PROTOS_ICHOS;ALLI_P
  ROTOS_ICHOS;DEYTEROS_ICHOS;ALLI_DEYTEROS_ICHOS;TRITOS_ICHOS?FONIAS<ETARTOS_ICHOS~OS_LEGETOS_ICHO
  S;LEGETOS_ICHOS;PLAGIOS_ICHOSzISAKIA_TELOUS_ICHIMATOSzAPOSTROFOI_TELOUS_ICHIMATOSzFANEROSIS_TETR
  AFONIAS<MONOFONIAS<DIFONIASzMARTYRIA_VARYS_ICHOS;PROTOVARYS_ICHOS<LAGIOS_TETARTOS_ICHOSzGORTHMIK
  ON_N_APLOUN^DIPLOUNzENARXIS_KAI_FTHORA_VOUzIMIFONON&THORONzFTHORA_ARCHAION_DEYTEROU_ICHOU,DIATON
  IKI_PA~I_NANA,NAOS_ICHOS,DIATONIKI_DI,SKLIRON_DIATONON_DI,DIATONIKI_KE~I_ZO~I_NI_KATO~I_NI_ANO,M
  ALAKON_CHROMA_DIFONIAS~CHROMA_MONOFONIAS!HTORA_SKLIRON_CHROMA_VASIS!THORA_SKLIRON_CHROMA_SYNAFI,
  NENANOzCHROA_ZYGOS+KLITON+SPATHIzFTHORA_I_YFESIS_TETARTIMORION,ENARMONIOS_ANTIFONIAzYFESIS_TRITI
  MORIONzDIESIS_TRITIMORION.ETARTIMORION,APLI_DYO_DODEKATA,MONOGRAMMOS_TESSERA_DODEKATA,DIGRAMMOS_
  EX_DODEKATA,TRIGRAMMOS_OKTO_DODEKATAzYFESIS_APLI_DYO_DODEKATA,MONOGRAMMOS_TESSERA_DODEKATA,DIGRA
  MMOS_EX_DODEKATA,TRIGRAMMOS_OKTO_DODEKATAzGENIKI_DIESIS,YFESISzDIASTOLI_APLI_MIKRI~EGALI;DIPLI;T
  HESEOSzSIMANSIS_THESEOS~S_DISIMOU~S_TRISIMOU~S_TETRASIMOU;ARSEOS~_DISIMOU~_TRISIMOU~_TETRASIMOUz
  DIGRAMMA_GG$FTOGGOS_OUzSTIGMAzARKTIKO_PA.VOU.GA.DI.KE.ZO.NIzKENTIMATA_NEO_MESO,_NEO_MESO,TA_NEO_
  KATO,_NEO_KATO!LASMA_KATOzGORGON_NEO_KATO=1D100aMUSICAL_SYMBOL_SINGLE_BARLINEpDOUBLE_BARLINEpFIN
  AL_BARLINEpREVERSE_FINAL_BARLINEpDASHED_BARLINEpSHORT_BARLINEpLEFT_REPEAT_SIGNpRIGHT_REPEAT_SIGN
  qEPEAT_DOTSpDAL_SEGNOr_CAPOpSEGNOpCODApREPEATED_FIGURE-1+2+3pFERMATAw_BELOWpBREATH_MARKpCAESURAp
  BRACEtKETpONE-LINE_STAFFpTWO-LINE_STAFFqHREE-LINE_STAFFpFOUR-LINE_STAFFqIVE-LINE_STAFFpSIX-LINE_
  STAFFtSTRING_FRETBOARDpFOUR-STRING_FRETBOARDpG_CLEFv_OTTAVA_ALTA&BASSApC_CLEFpF_CLEFv_OTTAVA_ALT
  A&BASSApDRUM_CLEF-1z2=1D129pMULTIPLE_MEASURE_RESTpDOUBLE_SHARPwFLATpFLAT_UPuDOWNpNATURAL_UPxDOWN
  pSHARP_UPvDOWNpQUARTER_TONE_SHARP%FLATpCOMMON_TIMEqUT_TIMEpOTTAVA_ALTAwBASSApQUINDICESIMA_ALTA%B
  ASSApMULTI_RESTpWHOLE_RESTpHALF_RESTpQUARTER_RESTpEIGHTH_RESTpSIXTEENTH_RESTpTHIRTY-SECOND_RESTp
  SIXTY-FOURTH_RESTpONE_HUNDRED_TWENTY-EIGHTH_RESTpX_NOTEHEADpPLUS_NOTEHEADpCIRCLE_X_NOTEHEADpSQUA
  RE_NOTEHEAD_WHITE+BLACKpTRIANGLE_NOTEHEAD_UP_WHITE>BLACK.LEFT_WHITE^BLACK.RIGHT_WHITE|BLACK.DOWN
  _WHITE^BLACK.UP_RIGHT_WHITE~T_BLACKpMOON_NOTEHEAD_WHITE&BLACKpTRIANGLE-ROUND_NOTEHEAD_DOWN_WHITE
  ~OWN_BLACKpPARENTHESIS_NOTEHEADpVOID_NOTEHEADpNOTEHEAD_BLACKqULL_NOTEHEADpCLUSTER_NOTEHEAD_WHITE
  ,BLACKpBREVEpWHOLE_NOTEpHALF_NOTEpQUARTER_NOTEpEIGHTH_NOTEpSIXTEENTH_NOTEpTHIRTY-SECOND_NOTEpSIX
  TY-FOURTH_NOTEpONE_HUNDRED_TWENTY-EIGHTH_NOTEpCOMBINING_STEM!PRECHGESANG_STEMzTREMOLO-1.2.3pFING
  ERED_TREMOLO-1,2,3pCOMBINING_AUGMENTATION_DOTzFLAG-1*2*3*4*5pBEGIN_BEAMpEND_BEAMpBEGIN_TIEpEND_T
  IEpBEGIN_SLURpEND_SLURpBEGIN_PHRASEpEND_PHRASEpCOMBINING_ACCENTzSTACCATOzTENUTOzSTACCATISSIMOzMA
  RCATO,-STACCATOzACCENT-STACCATOzLOUREpARPEGGIATO_UP!DOWNpCOMBINING_DOITzRIPzFLIPzSMEARzBENDzDOUB
  LE_TONGUEzTRIPLE_TONGUEpRINFORZANDOpSUBITOpZpPIANOpMEZZOpFORTEpCRESCENDOpDECRESCENDOpGRACE_NOTE_
  SLASH!NO_SLASHpTRqURNpINVERTED_TURNpTURN_SLASHuUPpORNAMENT_STROKE-1+2+3+4+5+6+7+8+9+10,1pHAUPTST
  IMMEpNEBENSTIMMEpEND_OF_STIMMEpDEGREE_SLASHpCOMBINING_DOWN_BOWzUP_BOWzHARMONICzSNAP_PIZZICATOpPE
  DAL_MARKvUP_MARKpHALF_PEDAL_MARKpGLISSANDO_UPzDOWNpWITH_FINGERNAILSpDAMPt_ALLpMAXIMApLONGApBREVI
  SpSEMIBREVIS_WHITE!BLACKpMINIMAv_BLACKpSEMIMINIMA_WHITE!BLACKpFUSA_WHITEuBLACKpLONGA_PERFECTA_RE
  STvIMPERFECTA_RESTpBREVIS_RESTpSEMIBREVIS_RESTpMINIMA_RESTpSEMIMINIMA_RESTpTEMPUS_PERFECTUM_CUM_
  PROLATIONE_PERFECTA~ATIONE_IMPERFECTA~ATIONE_PERFECTA_DIMINUTION-1wIMPERFECTUM_CUM_PROLATIONE_PE
  RFECTA~OLATIONE_IMPERFECTA~OLATIONE_IMPERFECTA_DIMINUTION-1~OLATIONE_IMPERFECTA_DIMINUTION-2~OLA
  TIONE_IMPERFECTA_DIMINUTION-3pCROIXpGREGORIAN_C_CLEFzF_CLEFpSQUARE_BpVIRGApPODATUSpCLIVISpSCANDI
  CUSpCLIMACUSpTORCULUSpPORRECTUSy_FLEXUSpSCANDICUS_FLEXUSpTORCULUS_RESUPINUSpPES_SUBPUNCTISpKIEVA
  N_C_CLEFwEND_OF_PIECEwFINAL_NOTEwRECITATIVE_MARKwWHOLE_NOTEwHALF_NOTEwQUARTER_NOTE_STEM_DOWN~UPw
  EIGHTH_NOTE_STEM_DOWN|UPwFLAT_SIGNpSORIpKORON=1D200aGREEK_VOCAL_NOTATION_SYMBOL-1%2%3%4%5%6%7%8%
  9%10&1&2&3&4&5&6&7&8&9%20&1&2&3&4%50&1&2&3&4gINSTRUMENTAL_NOTATION_SYMBOL-1<2<4<5<7<8<11>2>3>4>7
  >8>9<23>4>5>6>7>9<30>2>6>7>8>9<40>2>3>5>7>8>9<50>1>2>3>4aCOMBINING_GREEK_MUSICAL_TRISEMEzETRASEM
  EyPENTASEMEaGREEK_MUSICAL_LEIMMA=1D2E0aMAYAN_NUMERAL_ZEROoONEoTWOpHREEoFOURpIVEoSIXpEVENoEIGHToN
  INEoTENoELEVENoTWELVEpHIRTEENoFOURTEENpIFTEENoSIXTEENpEVENTEENoEIGHTEENoNINETEEN=1D300bONOGRAM_F
  OR_EARTHaDIGRAM_FOR_HEAVENLY_EARTHmUMAN_EARTHlEARTHLY_HEAVENuUMANqaTETRAGRAM_FOR_CENTREoFULL_CIR
  CLEoMIREDoBARRIERoKEEPING_)oCONTRARIETYoASCENToOPPOSITIONoBRANCHING_OUToDEFECTIVENESS_OR_DISTORT
  IONpIVERGENCEoYOUTHFULNESSoINCREASEoPENETRATIONoREACHoCONTACToHOLDING_BACKoWAITINGoFOLLOWINGoADV
  ANCEoRELEASEqSISTANCEoEASEoJOYoCONTENTIONoENDEAVOURoDUTIESoCHANGEoDECISIVENESSoBOLD_RESOLUTIONoP
  ACKINGoLEGIONoCLOSENESSoKINSHIPoGATHERINGoSTRENGTHoPURITYoFULLNESSoRESIDENCEoLAW_OR_MODELoRESPON
  SEoGOING_TO_MEEToENCOUNTERSoSTOVEoGREATNESSoENLARGEMENToPATTERNoRITUALoFLIGHToVASTNESS_OR_WASTIN
  GoCONSTANCYoMEASUREoETERNITYoUNITYoDIMINISHMENToCLOSED_MOUTHoGUARDEDNESSpATHERING_INoMASSINGoACC
  UMULATIONoEMBELLISHMENToDOUBToWATCHoSINKINGoINNERoDEPARTUREpARKENINGpIMMINGoEXHAUSTIONoSEVERANCE
  pTOPPAGEoHARDNESSoCOMPLETIONpLOSUREoFAILUREoAGGRAVATIONoCOMPLIANCEoON_THE_VERGEoDIFFICULTIESoLAB
  OURINGoFOSTERING=1D360aCOUNTING_ROD_UNIT_DIGIT_ONEyTWOzHREEyFOURzIVEySIXzEVENyEIGHTyNINEnTENS_DI
  GIT_ONEyTWOzHREEyFOURzIVEySIXzEVENyEIGHTyNINEaIDEOGRAPHIC_TALLY_MARK_ONExTWOyHREExFOURyIVEaTALLY
  _MARK_ONElFIVE=1D400aMATHEMATICAL_BOLD_(_A!B!C!D!E!F!G!H!I!J!K!L!M!N!O!P!Q!R!S!T!U!V!W!X!Y!Zs)_A
  yByCyDyEyFyGyHyIyJyKyLyMyNyOyPyQyRySyTyUyVyWyXyYyZnITALIC_(_A%B%C%D%E%F%G%H%I%J%K%L%M%N%O%P%Q%R%
  S%T%U%V%W%X%Y%Zu)_A!B!C!D!E!F!G=1D456!I!J!K!L!M!N!O!P!Q!R!S!T!U!V!W!X!Y!ZnBOLD_ITALIC_(_A.B.C.D.
  E.F.G.H.I.J.K.L.M.N.O.P.Q.R.S.T.U.V.W.X.Y.Zz)_A+B+C+D+E+F+G+H+I+J+K+L+M+N+O+P+Q+R+S+T+U+V+W+X+Y+
  ZnSCRIPT_(_A=1D49E%C%D=1D4A2%G=1D4A5%J%K=1D4A9%N%O%P%Q=1D4AE%S%T%U%V%W%X%Y%Zu)_A!B!C!D=1D4BB!F=1
  D4BD!H!I!J!K!L!M!N=1D4C5!P!Q!R!S!T!U!V!W!X!Y!ZnBOLD_SCRIPT_(_A.B.C.D.E.F.G.H.I.J.K.L.M.N.O.P.Q.R
  .S.T.U.V.W.X.Y.Zz)_A+B+C+D+E+F+G+H+I+J+K+L+M+N+O+P+Q+R+S+T+U+V+W+X+Y+ZnFRAKTUR_(_A&B=1D507&D&E&F
  &G=1D50D&J&K&L&M&N&O&P&Q=1D516&S&T&U&V&W&X&Y=1D51Ev)_A$B$C$D$E$F$G$H$I$J$K$L$M$N$O$P$Q$R$S$T$U$V
  $W$X$Y$ZnDOUBLE-STRUCK_(_A<B=1D53B<D<E<F<G=1D540<I<J<K<L<M=1D546<O=1D54A<S<T<U<V<W<X<Y=1D552$)_A
  .B.C.D.E.F.G.H.I.J.K.L.M.N.O.P.Q.R.S.T.U.V.W.X.Y.ZnBOLD_FRAKTUR_(_A;B;C;D;E;F;G;H;I;J;K;L;M;N;O;
  P;Q;R;S;T;U;V;W;X;Y;Z!)_A,B,C,D,E,F,G,H,I,J,K,L,M,N,O,P,Q,R,S,T,U,V,W,X,Y,ZnSANS-SERIF_(_A,B,C,D
  ,E,F,G,H,I,J,K,L,M,N,O,P,Q,R,S,T,U,V,W,X,Y,Zy)_A*B*C*D*E*F*G*H*I*J*K*L*M*N*O*P*Q*R*S*T*U*V*W*X*Y
  *ZyBOLD_(_A?B?C?D?E?F?G?H?I?J?K?L?M?N?O?P?Q?R?S?T?U?V?W?X?Y?Z&)_A<B<C<D<E<F<G<H<I<J<K<L<M<N<O<P<
  Q<R<S<T<U<V<W<X<Y<ZyITALIC_(_A|B|C|D|E|F|G|H|I|J|K|L|M|N|O|P|Q|R|S|T|U|V|W|X|Y|Z+)_A?B?C?D?E?F?G
  ?H?I?J?K?L?M?N?O?P?Q?R?S?T?U?V?W?X?Y?ZyBOLD_ITALIC_(_A~TAL_B~TAL_C~TAL_D~TAL_E~TAL_F~TAL_G~TAL_H
  ~TAL_I~TAL_J~TAL_K~TAL_L~TAL_M~TAL_N~TAL_O~TAL_P~TAL_Q~TAL_R~TAL_S~TAL_T~TAL_U~TAL_V~TAL_W~TAL_X
  ~TAL_Y~TAL_Z>)_A~L_B~L_C~L_D~L_E~L_F~L_G~L_H~L_I~L_J~L_K~L_L~L_M~L_N~L_O~L_P~L_Q~L_R~L_S~L_T~L_U
  ~L_V~L_W~L_X~L_Y~L_ZnMONOSPACE_(_A+B+C+D+E+F+G+H+I+J+K+L+M+N+O+P+Q+R+S+T+U+V+W+X+Y+Zx)_A&B&C&D&E
  &F&G&H&I&J&K&L&M&N&O&P&Q&R&S&T&U&V&W&X&Y&ZnITALIC_)_DOTLESS_I;J=1D6A8nBOLD_(_ALPHA!BETA!GAMMA!DE
  LTA!EPSILON!ZETA!ETA!THETA!IOTA!KAPPA!LAMDA!MU!NU!XI!OMICRON!PI!RHO!THETA_SYMBOL!SIGMA!TAU!UPSIL
  ON!PHI!CHI!PSI!OMEGAsNABLAs)_ALPHAyBETAyGAMMAyDELTAyEPSILONyZETAyETAyTHETAyIOTAyKAPPAyLAMDAyMUyN
  UyXIyOMICRONyPIyRHOyFINAL_SIGMAySIGMAyTAUyUPSILONyPHIyCHIyPSIyOMEGAsPARTIAL_DIFFERENTIALsEPSILON
  _SYMBOLsTHETA_SYMBOLsKAPPA_SYMBOLsPHI_SYMBOLsRHO_SYMBOLsPI_SYMBOLnITALIC_(_ALPHA%BETA%GAMMA%DELT
  A%EPSILON%ZETA%ETA%THETA%IOTA%KAPPA%LAMDA%MU%NU%XI%OMICRON%PI%RHO%THETA_SYMBOL%SIGMA%TAU%UPSILON
  %PHI%CHI%PSI%OMEGAuNABLAu)_ALPHA!BETA!GAMMA!DELTA!EPSILON!ZETA!ETA!THETA!IOTA!KAPPA!LAMDA!MU!NU!
  XI!OMICRON!PI!RHO!FINAL_SIGMA!SIGMA!TAU!UPSILON!PHI!CHI!PSI!OMEGAuPARTIAL_DIFFERENTIALuEPSILON_S
  YMBOLuTHETA_SYMBOLuKAPPA_SYMBOLuPHI_SYMBOLuRHO_SYMBOLuPI_SYMBOLnBOLD_ITALIC_(_ALPHA.BETA.GAMMA.D
  ELTA.EPSILON.ZETA.ETA.THETA.IOTA.KAPPA.LAMDA.MU.NU.XI.OMICRON.PI.RHO.THETA_SYMBOL.SIGMA.TAU.UPSI
  LON.PHI.CHI.PSI.OMEGAzNABLAz)_ALPHA+BETA+GAMMA+DELTA+EPSILON+ZETA+ETA+THETA+IOTA+KAPPA+LAMDA+MU+
  NU+XI+OMICRON+PI+RHO+FINAL_SIGMA+SIGMA+TAU+UPSILON+PHI+CHI+PSI+OMEGAzPARTIAL_DIFFERENTIALzEPSILO
  N_SYMBOLzTHETA_SYMBOLzKAPPA_SYMBOLzPHI_SYMBOLzRHO_SYMBOLzPI_SYMBOLnSANS-SERIF_BOLD_(_ALPHA?BETA?
  GAMMA?DELTA?EPSILON?ZETA?ETA?THETA?IOTA?KAPPA?LAMDA?MU?NU?XI?OMICRON?PI?RHO?THETA_SYMBOL?SIGMA?T
  AU?UPSILON?PHI?CHI?PSI?OMEGA&NABLA&)_ALPHA<BETA<GAMMA<DELTA<EPSILON<ZETA<ETA<THETA<IOTA<KAPPA<LA
  MDA<MU<NU<XI<OMICRON<PI<RHO<FINAL_SIGMA<SIGMA<TAU<UPSILON<PHI<CHI<PSI<OMEGA&PARTIAL_DIFFERENTIAL
  &EPSILON_SYMBOL&THETA_SYMBOL&KAPPA_SYMBOL&PHI_SYMBOL&RHO_SYMBOL&PI_SYMBOL&ITALIC_(_ALPHA~TAL_BET
  A~TAL_GAMMA~TAL_DELTA~TAL_EPSILON~TAL_ZETA~TAL_ETA~TAL_THETA~TAL_IOTA~TAL_KAPPA~TAL_LAMDA~TAL_MU
  ~TAL_NU~TAL_XI~TAL_OMICRON~TAL_PI~TAL_RHO~TAL_THETA_SYMBOL~TAL_SIGMA~TAL_TAU~TAL_UPSILON~TAL_PHI
  ~TAL_CHI~TAL_PSI~TAL_OMEGA>NABLA>)_ALPHA~L_BETA~L_GAMMA~L_DELTA~L_EPSILON~L_ZETA~L_ETA~L_THETA~L
  _IOTA~L_KAPPA~L_LAMDA~L_MU~L_NU~L_XI~L_OMICRON~L_PI~L_RHO~L_FINAL_SIGMA~L_SIGMA~L_TAU~L_UPSILON~
  L_PHI~L_CHI~L_PSI~L_OMEGA>PARTIAL_DIFFERENTIAL>EPSILON_SYMBOL>THETA_SYMBOL>KAPPA_SYMBOL>PHI_SYMB
  OL>RHO_SYMBOL>PI_SYMBOLnBOLD_(_DIGAMMAs)_DIGAMMA=1D7CEsDIGIT_ZEROyONEyTWOzHREEyFOURzIVEySIXzEVEN
  yEIGHTyNINEnDOUBLE-STRUCK_DIGIT_ZERO.ONE.TWO;HREE.FOUR;IVE.SIX;EVEN.EIGHT.NINEnSANS-SERIF_DIGIT_
  ZERO*ONE*TWO+HREE*FOUR+IVE*SIX+EVEN*EIGHT*NINEyBOLD_DIGIT_ZERO<ONE<TWO>HREE<FOUR>IVE<SIX>EVEN<EI
  GHT<NINEnMONOSPACE_DIGIT_ZERO&ONE&TWO*HREE&FOUR*IVE&SIX*EVEN&EIGHT&NINEaSIGNWRITING_HAND-FIST_IN
  DEXrCIRCLE_INDEXsUP_INDEXrOVAL_INDEXrHINGE_INDEXrANGLE_INDEXrFIST_INDEX_BENTrCIRCLE_INDEX_BENTrF
  IST_THUMB_UNDER_INDEX_BENTwINDEX_RAISED_KNUCKLE%CUPPED%HINGED;_LOWrCIRCLE_INDEX_HINGErFIST_INDEX
  _MIDDLErCIRCLE_INDEX_MIDDLErFIST_INDEX_MIDDLE_BENT<RAISED_KNUCKLES<HINGED%UP_MIDDLE_HINGED%HINGE
  D_MIDDLE_UP%MIDDLE_CONJOINED~INED_INDEX_BENT~INED_MIDDLE_BENT~INED_CUPPED~INED_HINGED>ROSSEDrCIR
  CLE_INDEX_MIDDLE_CROSSEDrFIST_MIDDLE_BENT_OVER_INDEXwINDEX_BENT_OVER_MIDDLE%MIDDLE_THUMBrCIRCLE_
  INDEX_MIDDLE_THUMBrFIST_INDEX_MIDDLE_STRAIGHT_THUMB_BENT<BENT_THUMB_STRAIGHT<THUMB_BENT<HINGED_S
  PREAD_THUMB_SIDE%UP_MIDDLE_HINGED_THUMB_SIDE~NGED_THUMB_CONJOINED%HINGED_MIDDLE_UP_THUMB_SIDE%MI
  DDLE_UP_SPREAD_THUMB_FORWARD<THUMB_CUPPED~_CIRCLED~_HOOKED~_HINGEDwTHUMB_BETWEEN_INDEX_MIDDLE_ST
  RAIGHTwINDEX_MIDDLE_CONJOINED_THUMB_SIDE~INED_THUMB_SIDE_CONJOINED~INED_THUMB_SIDE_BENTwMIDDLE_T
  HUMB_HOOKED_INDEX_UPwINDEX_THUMB_HOOKED_MIDDLE_UP%MIDDLE_CONJOINED_HINGED_THUMB_SIDE>ROSSED_THUM
  B_SIDE>ONJOINED_THUMB_FORWARD~INED_CUPPED_THUMB_FORWARDwMIDDLE_THUMB_CUPPED_INDEX_UPwINDEX_THUMB
  _CUPPED_MIDDLE_UPwMIDDLE_THUMB_CIRCLED_INDEX_UP~ED_INDEX_HINGEDwINDEX_THUMB_ANGLED_OUT_MIDDLE_UP
  ~_IN_MIDDLE_UP;CIRCLED_MIDDLE_UP%MIDDLE_THUMB_CONJOINED_HINGED~_ANGLED_OUT~_ANGLEDwMIDDLE_THUMB_
  ANGLED_OUT_INDEX_UP~D_OUT_INDEX_CROSSED~D_INDEX_UPwINDEX_THUMB_HOOKED_MIDDLE_HINGEDsLAT_FOUR_FIN
  GERS;_BENT<HINGED<CONJOINED~INED_SPLITrCLAW_FOUR_FINGERS_CONJOINEDrFIST_FOUR_FINGERS_CONJOINED_B
  ENTrHINGE_FOUR_FINGERS_CONJOINEDrFLAT_FIVE_FINGERS_SPREADwHEEL_FIVE_FINGERS_SPREADwFIVE_FINGERS_
  SPREAD_FOUR_BENTwHEEL_FIVE_FINGERS_SPREAD_FOUR_BENTwFIVE_FINGERS_SPREAD_BENTwHEEL_FIVE_FINGERS_S
  PREAD_BENTwFIVE_FINGERS_SPREAD_THUMB_FORWARDrCUP_FIVE_FINGERS_SPREAD~_OPENrHINGE_FIVE_FINGERS_SP
  READ_OPENrOVAL_FIVE_FINGERS_SPREADrFLAT_FIVE_FINGERS_SPREAD_HINGED~D_HINGED_THUMB_SIDE~D_HINGED_
  NO_THUMBvv_BETWEEN_PALM_FACINGSwHEELwTHUMB_SIDEwHEEL_THUMB_SIDEwTHUMB_BENT%FORWARDwSPLIT_INDEX_T
  HUMB_SIDE%CENTRE;_THUMB_SIDE~_SIDE_BENT%LITTLErCLAWv_THUMB_SIDEwNO_THUMBwTHUMB_FORWARDrHOOK_CURL
  ICUEvrCUP_OPENuu_OPEN_THUMB_SIDEvTHUMB_SIDEvOPEN_NO_THUMBvNO_THUMBvOPEN_THUMB_FORWARDvTHUMB_FORW
  ARDtRLICUE_OPENzsIRCLErOVALv_THUMB_SIDEwNO_THUMBwTHUMB_FORWARDrHINGE_OPEN$_THUMB_FORWARDww_)xOPE
  N_THUMB_SIDExTHUMB_SIDExOPEN_NO_THUMBxNO_THUMBxTHUMB_SIDE_TOUCHING_INDEX&BETWEEN_MIDDLE_RINGrANG
  LErFIST_INDEX_MIDDLE_RINGrCIRCLE_INDEX_MIDDLE_RINGrHINGE_INDEX_MIDDLE_RINGrANGLE_INDEX_MIDDLE_RI
  NGrHINGE_LITTLErFIST_INDEX_MIDDLE_RING_BENT~CONJOINEDrHINGE_INDEX_MIDDLE_RING_CONJOINEDrFIST_LIT
  TLE_DOWN._RIPPLE_STRAIGHT~_CURVED;OTHERS_CIRCLED&UPwTHUMB_UNDER_LITTLE_UPrCIRCLE_LITTLE_UPrOVAL_
  LITTLE_UPrANGLE_LITTLE_UPrFIST_LITTLE_RAISED_KNUCKLE&BENT&TOUCHES_THUMB*HUMBrHINGE_LITTLE_THUMBr
  FIST_LITTLE_INDEX_THUMBrHINGE_LITTLE_INDEX_THUMBrANGLE_LITTLE_INDEX_THUMB_INDEX_THUMB_OUT~B_INDE
  X_THUMBrFIST_LITTLE_INDEXrCIRCLE_LITTLE_INDEXrHINGE_LITTLE_INDEXrANGLE_LITTLE_INDEXrFIST_INDEX_M
  IDDLE_LITTLErCIRCLE_INDEX_MIDDLE_LITTLErHINGE_INDEX_MIDDLE_LITTLExRINGrANGLE_INDEX_MIDDLE_LITTLE
  rFIST_INDEX_MIDDLE_CROSS_LITTLErCIRCLE_INDEX_MIDDLE_CROSS_LITTLErFIST_RING_DOWNrHINGE_RING_DOWN_
  INDEX_THUMB_HOOK_MIDDLErANGLE_RING_DOWN_MIDDLE_THUMB_INDEX_CROSSrFIST_RING_UP$RAISED_KNUCKLE$LIT
  TLErCIRCLE_RING_LITTLErOVAL_RING_LITTLErANGLE_RING_LITTLErFIST_RING_MIDDLE._CONJOINED;RAISED_KNU
  CKLES$INDEX$THUMBrHOOK_RING_THUMBrFIST_INDEX_RING_LITTLErCIRCLE_INDEX_RING_LITTLEsURLICUE_INDEX_
  RING_LITTLE_ONrHOOK_INDEX_RING_LITTLE_OUT~IN~UNDERrCUP_INDEX_RING_LITTLErHINGE_INDEX_RING_LITTLE
  rANGLE_INDEX_RING_LITTLE_OUT~rFIST_MIDDLE_DOWNrHINGE_MIDDLErFIST_MIDDLE_UPrCIRCLE_MIDDLE_UPrFIST
  _MIDDLE_RAISED_KNUCKLE&UP_THUMB_SIDErHOOK_MIDDLE_THUMBrFIST_MIDDLE_THUMB_LITTLE&LITTLE&RING_LITT
  LErCIRCLE_MIDDLE_RING_LITTLEsURLICUE_MIDDLE_RING_LITTLE_ONtP_MIDDLE_RING_LITTLErHINGE_MIDDLE_RIN
  G_LITTLErANGLE_MIDDLE_RING_LITTLE_OUT~E_IN~ErCIRCLE_MIDDLE_RING_LITTLE_BENTsLAW_MIDDLE_RING_LITT
  LE_CONJOINED~_CONJOINED_SIDErHOOK_MIDDLE_RING_LITTLE_CONJOINED_OUT~_CONJOINED_IN~_CONJOINEDsINGE
  _INDEX_HINGEDrFIST_INDEX_THUMB_SIDErHINGE_INDEX_THUMB_SIDErFIST_INDEX_THUMB_SIDE_THUMB_DIAGONAL~
  HUMB_CONJOINED~HUMB_BENT|INDEX_BENT|BOTH_BENT|INDEX_HINGE;FORWARD_INDEX_STRAIGHT~D_INDEX_BENT;HO
  OK;CURLICUE?VE_THUMB_INSIDErCLAW_INDEX_THUMB_CURVE_THUMB_INSIDErFIST_INDEX_THUMB_CURVE_THUMB_UND
  ER<IRCLErCUP_INDEX_THUMB,_OPENrHINGE_INDEX_THUMB_OPEN<LARGE;;_)rANGLE_INDEX_THUMB_OUT<IN;rFIST_T
  HUMB$_HEEL%SIDE_DIAGONAL.CONJOINED.BENT%FORWARD%BETWEEN_INDEX_MIDDLE>MIDDLE_RING>RING_LITTLE%UND
  ER_TWO_FINGERS%OVER_TWO_FINGERS%UNDER_THREE_FINGERS;FOUR_FINGERS%OVER_FOUR_RAISED_KNUCKLESvv_HEE
  LmTOUCH_SINGLEsMULTIPLEsBETWEENmGRASP_SINGLEsMULTIPLEsBETWEENmSTRIKE_SINGLEtMULTIPLEtBETWEENmBRU
  SH_SINGLEsMULTIPLEsBETWEENmRUB_SINGLEqMULTIPLEqBETWEENmSURFACE_SYMBOLSuBETWEENnQUEEZE_LARGE_SING
  LEu)_SINGLEuLARGE_MULTIPLEu)_MULTIPLEvEQUENTIALmFLICK_LARGE_SINGLEs)_SINGLEsLARGE_MULTIPLEs)_MUL
  TIPLEtEQUENTIALmSQUEEZE_FLICK_ALTERNATINGmMOVEMENT-HINGE_UP_DOWN_LARGE<)*SEQUENTIAL$DOWN_SEQUENT
  IAL$UP_DOWN_ALTERNATING_LARGE~NATING_)$SIDE_TO_SIDE_SCISSORSvWALLPLANE_FINGER_CONTACTvFLOORPLANE
  _FINGER_CONTACTvWALLPLANE_SINGLE_STRAIGHT_)~RAIGHT_MEDIUM~RAIGHT_LARGE~RAIGHT_LARGEST^WRIST_FLEX
  +DOUBLE_STRAIGHT^WRIST_FLEX^ALTERNATING~TERNATING_WRIST_FLEX+CROSS+TRIPLE_STRAIGHT_MOVEMENT^WRIS
  T_FLEX^ALTERNATING~TERNATING_WRIST_FLEX+BEND_)>MEDIUM>LARGE+CORNER_)^MEDIUM^LARGE^ROTATION,HECK_
  )?MEDIUM?LARGE+BOX_)<MEDIUM<LARGE+ZIGZAG_)^MEDIUM^LARGE+PEAKS_)?MEDIUM?LARGEmTRAVEL-WALLPLANE_RO
  TATION-WALLPLANE_SINGLE~LLPLANE_DOUBLE~LLPLANE_ALTERNATING^FLOORPLANE_SINGLE~OORPLANE_DOUBLE~OOR
  PLANE_ALTERNATING&SHAKING&ARM_SPIRAL_SINGLE~DOUBLE~TRIPLEmMOVEMENT-DIAGONAL_AWAY_)<MEDIUM<LARGE~
  ST*TOWARDS_)^MEDIUM^LARGE~RGEST*BETWEEN_AWAY_)~AY_MEDIUM~AY_LARGE~AY_LARGEST^TOWARDS_)~WARDS_MED
  IUM~WARDS_LARGE~WARDS_LARGESTvFLOORPLANE_SINGLE_STRAIGHT_)~TRAIGHT_MEDIUM~TRAIGHT_LARGE~TRAIGHT_
  LARGEST|WRIST_FLEX,DOUBLE_STRAIGHT|WRIST_FLEX|ALTERNATING~LTERNATING_WRIST_FLEX,CROSS,TRIPLE_STR
  AIGHT_MOVEMENT|WRIST_FLEX|ALTERNATING_MOVEMENT~LTERNATING_WRIST_FLEX,BEND,CORNER_)|MEDIUM|LARGE.
  HECK,BOX_)>MEDIUM>LARGE,ZIGZAG_)|MEDIUM|LARGE,PEAKS_)^MEDIUM^LARGEmTRAVEL-FLOORPLANE_ROTATION-FL
  OORPLANE_SINGLE~LOORPLANE_DOUBLE~LOORPLANE_ALTERNATING|WALLPLANE_SINGLE~ALLPLANE_DOUBLE~ALLPLANE
  _ALTERNATING*SHAKINGmMOVEMENT-WALLPLANE_CURVE_QUARTER_)~RTER_MEDIUM~RTER_LARGE~RTER_LARGEST?HALF
  -CIRCLE_)~F-CIRCLE_MEDIUM~F-CIRCLE_LARGE~F-CIRCLE_LARGEST?THREE-QUARTER_CIRCLE_)~EE-QUARTER_CIRC
  LE_MEDIUM+HUMP_)>MEDIUM>LARGE+LOOP_)>MEDIUM>LARGE>)_DOUBLE+WAVE_CURVE_DOUBLE_)~E_DOUBLE_MEDIUM~E
  _DOUBLE_LARGE~E_TRIPLE_)~E_TRIPLE_MEDIUM~E_TRIPLE_LARGE+CURVE_THEN_STRAIGHT>D_CROSS_)~OSS_MEDIUM
  mROTATION-WALLPLANE_SINGLE+DOUBLE+ALTERNATEmMOVEMENT-WALLPLANE_SHAKING+CURVE_HITTING_FRONT_WALL+
  HUMP_HITTING_FRONT_WALL+LOOP_HITTING_FRONT_WALL+WAVE_HITTING_FRONT_WALLmROTATION-WALLPLANE_SINGL
  E_HITTING_FRONT_WALL+DOUBLE_HITTING_FRONT_WALL+ALTERNATING_HITTING_FRONT_WALLmMOVEMENT-WALLPLANE
  _CURVE_HITTING_CHEST+HUMP_HITTING_CHEST+LOOP_HITTING_CHEST+WAVE_HITTING_CHESTmROTATION-WALLPLANE
  _SINGLE_HITTING_CHEST+DOUBLE_HITTING_CHEST+ALTERNATING_HITTING_CHESTmMOVEMENT-WALLPLANE_WAVE_DIA
  GONAL_PATH_)~ONAL_PATH_MEDIUM~ONAL_PATH_LARGEvFLOORPLANE_CURVE_HITTING_CEILING_)~TTING_CEILING_L
  ARGE,HUMP_HITTING_CEILING_)_DOUBLE~TING_CEILING_LARGE_DOUBLE~TING_CEILING_)_TRIPLE~TING_CEILING_
  LARGE_TRIPLE,LOOP_HITTING_CEILING_)_SINGLE~TING_CEILING_LARGE_SINGLE~TING_CEILING_)_DOUBLE~TING_
  CEILING_LARGE_DOUBLE,WAVE_HITTING_CEILING_)~TING_CEILING_LARGEmROTATION-FLOORPLANE_SINGLE_HITTIN
  G_CEILING,DOUBLE_HITTING_CEILING,ALTERNATING_HITTING_CEILINGmMOVEMENT-FLOORPLANE_CURVE_HITTING_F
  LOOR_)~TTING_FLOOR_LARGE,HUMP_HITTING_FLOOR_)_DOUBLE~TING_FLOOR_LARGE_DOUBLE~TING_FLOOR_TRIPLE_)
  _TRIPLE~TING_FLOOR_TRIPLE_LARGE_TRIPLE,LOOP_HITTING_FLOOR_)_SINGLE~TING_FLOOR_LARGE_SINGLE~TING_
  FLOOR_)_DOUBLE~TING_FLOOR_LARGE_DOUBLE,WAVE_HITTING_FLOOR_)~TING_FLOOR_LARGEmROTATION-FLOORPLANE
  _SINGLE_HITTING_FLOOR,DOUBLE_HITTING_FLOOR,ALTERNATING_HITTING_FLOORmMOVEMENT-FLOORPLANE_CURVE_)
  ^MEDIUM^LARGE~RGEST^COMBINED,HUMP_),LOOP_),WAVE_SNAKE^MALL?LARGEmROTATION-FLOORPLANE_SINGLE,DOUB
  LE,ALTERNATINGmMOVEMENT-FLOORPLANE_SHAKING_PARALLELvWALLPLANE_ARM_CIRCLE_)_SINGLE~E_MEDIUM_SINGL
  E~E_)_DOUBLE~E_MEDIUM_DOUBLEvFLOORPLANE_ARM_CIRCLE_HITTING_WALL_)_SINGLE~LE_HITTING_WALL_MEDIUM_
  SINGLE~LE_HITTING_WALL_LARGE_SINGLE~LE_HITTING_WALL_)_DOUBLE~LE_HITTING_WALL_MEDIUM_DOUBLE~LE_HI
  TTING_WALL_LARGE_DOUBLEvWALLPLANE_WRIST_CIRCLE_FRONT_SINGLE~CLE_FRONT_DOUBLEvFLOORPLANE_WRIST_CI
  RCLE_HITTING_WALL_SINGLE~RCLE_HITTING_WALL_DOUBLEvWALLPLANE_FINGER_CIRCLES_SINGLE~RCLES_DOUBLEvF
  LOORPLANE_FINGER_CIRCLES_HITTING_WALL_SINGLE~IRCLES_HITTING_WALL_DOUBLEmDYNAMIC[HEAD_)*LARGEuFAS
  TuSLOWuTENSEuRELAXEDuSIMULTANEOUS,_ALTERNATINGuEVERY_OTHER_TIMEuGRADUALmHEADq_RIMrMOVEMENT-WALLP
  LANE_STRAIGHT>TILT!FLOORPLANE_STRAIGHT!WALLPLANE_CURVE!FLOORPLANE_CURVEz_CIRCLEmFACE_DIRECTION_P
  OSITION_NOSE_FORWARD_TILTING~_UP_OR_DOWN~_UP_OR_DOWN_TILTINGmEYEBROWS_STRAIGHT_UP*NEUTRAL*DOWNmD
  REAMY_EYEBROWS_NEUTRAL_DOWN%DOWN_NEUTRAL%UP_NEUTRAL%NEUTRAL_UPmFOREHEAD_NEUTRALvCONTACTvWRINKLED
  mEYES_OPENrSQUEEZEDrCLOSEDp_BLINK_SINGLEwMULTIPLEpS_HALF_OPENrWIDE_OPENrHALF_CLOSEDrWIDENING_MOV
  EMENTp_WINKpLASHES_UPwDOWNwFLUTTERINGpGAZE-WALLPLANE_STRAIGHT^_DOUBLE|ALTERNATINGuFLOORPLANE_STR
  AIGHT|_DOUBLE~ALTERNATINGuWALLPLANE_CURVEDuFLOORPLANE_CURVEDuWALLPLANE_CIRCLINGmCHEEKS_PUFFEDtNE
  UTRALtSUCKEDmTENSE_CHEEKS_HIGHzMIDDLEzLOWmEARSmNOSE_NEUTRALrCONTACTrWRINKLESsIGGLESmAIR_BLOWING_
  OUTqSUCKING_INqBLOW_)_ROTATIONSqSUCK_)_ROTATIONSmBREATH_INHALEtEXHALEmMOUTH_CLOSED_NEUTRALzFORWA
  RDzCONTACTsSMILEx_WRINKLEDyOPENsFROWNx_WRINKLEDyOPENsOPEN_CIRCLExFORWARDxWRINKLEDxOVAL$_WRINKLED
  %YAWNxRECTANGLE,_WRINKLED.YAWNsKISSw_FORWARDxWRINKLEDsTENSEx_FORWARDySUCKEDmLIPS_PRESSED_TOGETHE
  Rp_LOWER_OVER_UPPERqUPPER_OVER_LOWERmMOUTH_CORNERSsWRINKLES_SINGLE$DOUBLEmTONGUE_STICKING_OUT_FA
  RtLICKING_LIPStTIP_BETWEEN_LIPSxTOUCHING_INSIDE_MOUTHtINSIDE_MOUTH_RELAXEDtMOVES_AGAINST_CHEEKtC
  ENTRE_STICKING_OUT!INSIDE_MOUTHnEETHr_MOVEMENTsON_TONGUE$_MOVEMENTvLIPSz_MOVEMENTsBITE_LIPSmMOVE
  MENT-WALLPLANE_JAWvFLOORPLANE_JAWmNECKmHAIRmEXCITEMENTmSHOULDER_HIP_SPINEzPOSITIONSmWALLPLANE_SH
  OULDER_HIP_MOVEmFLOORPLANE_SHOULDER_HIP_MOVEmSHOULDER_TILTING_FROM_WAISTmTORSO-WALLPLANE_STRAIGH
  T_STRETCH%CURVED_BENDsFLOORPLANE_TWISTINGmUPPER_BODY_TILTING_FROM_HIP_JOINTSmLIMB_COMBINATIONrLE
  NGTH-1y2y3y4y5y6y7mFINGERmLOCATION-WALLPLANE_SPACEvFLOORPLANE_SPACEu_HEIGHTvWIDTHvDEPTHvHEAD_NEC
  KvTORSOvLIMBS_DIGITSmCOMMAmFULL_STOPmSEMICOLONmCOLONmPARENTHESIS=1DA9BmFILL_MODIFIER-2!3!4!5!6=1
  DAA1mROTATION_MODIFIER-2*3*4*5*6*7*8*9*10+1+2+3+4+5+6=1DF00aLATIN_):FENG_DIGRAPH@TRILLtREVERSED_
  SCRIPT_GgLETTER_)_(_TURNED_Gg):REVERSED_KgLETTER_)_(_L@BELTg):LEZH@RETROFLEX_HOOKtTURNED_Y@BELTt
  REVERSED_ENGtTURNED_R@LONG_LEG/RETROFLEX_HOOKu@HOOK/RETROFLEX_HOOKgLETTER_RETROFLEX_CLICK@RETROF
  LEX_HOOKg):ESH@DOUBLE_BAR^/CURLtTURNED_T@CURLgLETTER_INVERTED_GLOTTAL_STOP@CURLnSTRETCHED_C@CURL
  oMALL_(_TURNED_Kg):L@FISHHOOKtDEZH_DIGRAPH@PALATAL_HOOKtL@BELT/PALATAL_HOOKtENG@PALATAL_HOOKtTUR
  NED_R@PALATAL_HOOKtR@FISHHOOK/PALATAL_HOOKtTESH_DIGRAPH@PALATAL_HOOKtEZH@PALATAL_HOOKtDEZH_DIGRA
  PH@RETROFLEX_HOOKtI@STROKE/RETROFLEX_HOOKtO@RETROFLEX_HOOKtTESH_DIGRAPH@RETROFLEX_HOOKtC@RETROFL
  EX_HOOKtS@CURL=1E000aCOMBINING_GLAGOLITIC:AZU%BUKY%VEDE%GLAGOLI%DOBRO%YESTU%ZHIVETE=1E008&EMLJA%
  IZHE&NITIAL_IZHE&%DJERVI%KAKO%LJUDIJE%MYSLITE%NASHI%ONU%POKOJI%RITSI%SLOVO%TVRIDO%UKU%FRITU%HERU
  =1E01B%SHTA%TSI%CHRIVI%SHA%YERU+I&ATI=1E023&U%)_YUS=1E026%YO%IOTATED_)_YUS%BIG_YUS%IOTATED_BIG_Y
  US%FITA=1E100aNYIAKENG_PUACHUE_HMONG:MA*TSA*NTA*TA*HA*NA*XA*NKA*CA*LA*SA*ZA*NCA+TSA*KA*DA*NYA+RA
  *VA*NTXA*TXA*FA*RA*QA*YA*NQA*PA*XYA*NPA*DLA*NPLA*HAH*MLA*PLA*GA*RRA*A+A*I*U*O+O*E+E*W=1E130xTONE
  -B%M%J%V%S%G%DxSIGN_FOR_PERSON,THING,LOCATION,ANIMAL,INVERTEBRATE%XW_XWyYLLABLE_LENGTHENER=1E140
  xDIGIT_ZERO&ONE&TWO*HREE&FOUR*IVE&SIX*EVEN&EIGHT&NINE=1E14ExLOGOGRAM_NYAJxCIRCLED_CA=1E290aTOTO:
  PAmBAmTAmDAmKAmGAmMAmNAnGAmSAmCHAmYAmWAmJAmHAmRAmLAmImBREATHY_ImIUmBREATHY_IUmUmEmBREATHY_EmEOmB
  REATHY_EOmOmAEmBREATHY_AEmAfSIGN_RISING_TONE=1E2C0aWANCHO:AApoBAoCAoDAoGAoYAoPHAoLAoNAoPAoTApHAo
  FAoSApHAoJAoZAoWAoVAoKAoOoAUoRAoMAoKHAoHAoEoIoNGAoUoLLHAoTSApRAoONGoAANGpNGoINGoONoENoAANoNYAoUE
  NoYIHhTONE_TUPpNImKOIpNIhDIGIT_ZEROnONEnTWOoHREEnFOURoIVEnSIXoEVENnEIGHTnNINE=1E2FFhNGUN_SIGN=1E
  7E0aETHIOPIC_SYLLABLE_HHYAvUvIvAAvEEwvO=1E7E8sGURAGE_HHWAsHHWIvEEw=1E7EDsGURAGE_MWI$EE=1E7F0zQWI
  $EE%zBWI$EEzKWI$EE%zGWI$EE%zFWI$EEzPWI$EE=1E800aMENDE_KIKAKUI_SYLLABLE_M001_KI!2_KA!3_KUz65_KEEz
  95_KEz76_KOOz48_KOy179_KUAy004_WI!5_WA!6_WUy126_WEEz18_WE!4_WOOy045_WOy194_WUIz43_WEIy061_WVIz49
  _WVAy139_WVEy007_MIN!8_MAN!9_MUNz59_MENz94_MONy154_MUANz89_MUENy010_BI!1_BA!2_BUy150_BEEy097_BEy
  103_BOOz38_BOy013_I!4_A!5_Uy163_EEz00_Ez65_OOz47_Oz37_EI!1_IN!5_INz95_ANz78_ENy019_SIz20_SA!1_SU
  y162_SEEz16_SEz36_SOOy079_SOy196_SIAy025_LI!6_LA!7_LUz84_LEEz73_LEz54_LOOy153_LOz10_LONG_LEy016_
  DI!7_DA!8_DUz89_DEEy180_DOO!1_DOy022_TI!3_TA!4_TUz91_TEEz55_TEy104_TOOy069_TOz28_JI!9_JAz30_JUy1
  57_JEEz13_JEz60_JOOy063_JOy175_LONG_JOy031_YI!2_YA!3_YUy109_YEEy080_YEy141_YOOz21_YOy034_FI!5_FA
  !6_FUz78_FEE!5_FEy133_FOOy088_FOy197_FUAz01_FANy037_NIN!8_NAN!9_NUNy117_NENz69_NONz76_HIy041_HAy
  186_HUy040_HEEz96_HEz42_HOOy140_HOy083_HEEIy128_HOOUy053_HINy130_HANy087_HUNz52_HENy193_HONy046_
  HUANz90_NGGIz43_NGGAz82_NGGUy115_NGGEEz46_NGGEz56_NGGOOz20_NGGOz59_NGGAAz27_NGGUAy086_LONG_NGGEy
  106_LONG_NGGOOz83_LONG_NGGOz55_GIz11_GAz68_GUz90_GEEz66_GUEI!7_GUANz84_NGENy057_NGONy177_NGUANy0
  68_PIz99_PAz50_PUz81_PEEz51_PEy102_POOy066_POy145_MBIy062_MBAy122_MBUy047_MBEEy188_MBEEy072_MBEy
  172_MBOO!4_MBOz87_MBUUz61_LONG_MBEz05_LONG_MBOOz42_LONG_MBOz32_KPIy092_KPAz74_KPUz44_KPEEy108_KP
  Ez12_KPOOz58_KPOz24_GBIy056_GBAy148_GBUy093_GBEEy107_GBEy071_GBOO!0_GBOy171_RAz23_NDI!9_NDA!5_ND
  Uz91_NDEEz19_NDEy067_NDOO!4_NDOy152_NJAz92_NJUz49_NJEEz34_NJOOz82_VI!5_VAz51_VUz73_VEEy085_VEy14
  4_VOOy077_VOy164_NYINy058_NYANy170_NYUNy098_NYENz60_NYON=1E8C7oDIGIT_ONEuTWOvHREEuFOURvIVEuSIXvE
  VENuEIGHTuNINEoCOMBINING_NUMBER_TEENS.NS+HUNDREDS+THOUSANDS,EN_THOUSANDS+HUNDRED_THOUSANDS+MILLI
  ONS=1E900aADLAM_(:ALIFvDAALIvLAAMvMIIMvBAvSINNYIIYHEvPEvBHEvRAvEvFAvIvOvDHAvYHEvWAWvNUNvKAFvYAvU
  vJIIMvCHIvHAvQAAFvGAvNYAvTUvNHAvVAvKHAvGBEvZALvKPOvSHAg):ALIFtDAALItLAAMtMIIMtBAtSINNYIIYHEtPEtB
  HEtRAtEtFAtItOtDHAtYHEtWAWtNUNtKAFtYAtUtJIIMtCHItHAtQAAFtGAtNYAtTUtNHAtVAtKHAtGBEtZALtKPOtSHAgAL
  IF_LENGTHENERgVOWEL_LENGTHENERgGEMINATION_MARKgHAMZAgCONSONANT_MODIFIERgGEMINATE_CONSONANT_MODIF
  IERgNUKTAhASALIZATION_MARK=1E950gDIGIT_ZEROmONEmTWOnHREEmFOURnIVEmSIXnEVENmEIGHTmNINE=1E95EgINIT
  IAL_EXCLAMATION_MARKoQUESTION_MARK=1EC71aINDIC_SIYAQ_NUMBER_ONEtTWOuHREEtFOURuIVEtSIXuEVENtEIGHT
  tNINEtTENuWENTYuHIRTYtFORTYuIFTYtSIXTYuEVENTYtEIGHTYtNINETYtONE_HUNDREDtTWO_HUNDREDuHREE_HUNDRED
  tFOUR_HUNDREDuIVE_HUNDREDtSIX_HUNDREDuEVEN_HUNDREDtEIGHT_HUNDREDtNINE_HUNDREDtONE_THOUSANDtTWO_T
  HOUSANDuHREE_THOUSANDtFOUR_THOUSANDuIVE_THOUSANDtSIX_THOUSANDuEVEN_THOUSANDtEIGHT_THOUSANDtNINE_
  THOUSANDtTEN_THOUSANDuWENTY_THOUSANDuHIRTY_THOUSANDtFORTY_THOUSANDuIFTY_THOUSANDtSIXTY_THOUSANDu
  EVENTY_THOUSANDtEIGHTY_THOUSANDtNINETY_THOUSANDtLAKHxANmLAKH_MARKmNUMBER_KARORyANtPREFIXED_ONE%T
  WO&HREE%FOUR&IVE%SIX&EVEN%EIGHT%NINEmPLACEHOLDERmFRACTION_ONE_QUARTERzHALFvTHREE_QUARTERSmRUPEE_
  MARKmNUMBER_ALTERNATE_ONE&TWO*EN_THOUSANDmALTERNATE_LAKH_MARK=1ED01aOTTOMAN_SIYAQ_NUMBER_ONEvTWO
  wHREEvFOURwIVEvSIXwEVENvEIGHTvNINEvTENwWENTYwHIRTYvFORTYwIFTYvSIXTYwEVENTYvEIGHTYvNINETYvONE_HUN
  DREDvTWO_HUNDREDwHREE_HUNDREDvFOUR_HUNDREDwIVE_HUNDREDvSIX_HUNDREDwEVEN_HUNDREDvEIGHT_HUNDREDvNI
  NE_HUNDREDvONE_THOUSANDvTWO_THOUSANDwHREE_THOUSANDvFOUR_THOUSANDwIVE_THOUSANDvSIX_THOUSANDwEVEN_
  THOUSANDvEIGHT_THOUSANDvNINE_THOUSANDvTEN_THOUSANDwWENTY_THOUSANDwHIRTY_THOUSANDvFORTY_THOUSANDw
  IFTY_THOUSANDvSIXTY_THOUSANDwEVENTY_THOUSANDvEIGHTY_THOUSANDvNINETY_THOUSANDoMARRATANoALTERNATE_
  NUMBER_TWO,HREE+FOUR,IVE+SIX,EVEN+EIGHT+NINE+TEN+FOUR_HUNDRED+SIX_HUNDRED+TWO_THOUSAND,EN_THOUSA
  NDoFRACTION_ONE_HALF$SIXTH=1EE00aARABIC_MATHEMATICAL_ALEFuBEHuJEEMuDAL=1EE05uWAWuZAINuHAHuTAHuYE
  HuKAFuLAMuMEEMuNOONuSEENuAINuFEHuSADuQAFuREHuSHEENuTEHvHEHuKHAHuTHALuDADuZAHuGHAINuDOTLESS_BEH%N
  OON%FEH%QAF=1EE21uINITIAL_BEH%JEEM=1EE24%HEH=1EE27&AH=1EE29%YEH%KAF%LAM%MEEM%NOON%SEEN%AIN%FEH%S
  AD%QAF=1EE34%SHEEN%TEH&HEH%KHAH=1EE39%DAD=1EE3B%GHAIN=1EE42uTAILED_JEEM=1EE47$HAH=1EE49$YEH=1EE4
  B$LAM=1EE4D$NOON$SEEN$AIN=1EE51$SAD$QAF=1EE54$SHEEN=1EE57$KHAH=1EE59$DAD=1EE5B$GHAIN=1EE5D$DOTLE
  SS_NOON=1EE5F<QAF=1EE61uSTRETCHED_BEH*JEEM=1EE64*HEH=1EE67+AH*TAH*YEH*KAF=1EE6C*MEEM*NOON*SEEN*A
  IN*FEH*SAD*QAF=1EE74*SHEEN*TEH+HEH*KHAH=1EE79*DAD*ZAH*GHAIN*DOTLESS_BEH=1EE7E^FEH=1EE80uLOOPED_A
  LEF$BEH$JEEM$DAL$HEH$WAW$ZAIN$HAH$TAH$YEH=1EE8B$LAM$MEEM$NOON$SEEN$AIN$FEH$SAD$QAF$REH$SHEEN$TEH
  %HEH$KHAH$THAL$DAD$ZAH$GHAIN=1EEA1uDOUBLE-STRUCK_BEH;JEEM;DAL=1EEA5;WAW;ZAIN;HAH;TAH;YEH=1EEAB;L
  AM;MEEM;NOON;SEEN;AIN;FEH;SAD;QAF;REH;SHEEN;TEH<HEH;KHAH;THAL;DAD;ZAH;GHAIN=1EEF0uOPERATOR_MEEM@
  HAH@TATWEEL&HAH@DAL=1F000aMAHJONG_TILE_EAST_WINDnSOUTH_WINDnWEST_WINDnNORTH_WINDnRED_DRAGONnGREE
  N_DRAGONnWHITE_DRAGONnONE_OF_CHARACTERSnTWO_OF_CHARACTERSoHREE_OF_CHARACTERSnFOUR_OF_CHARACTERSo
  IVE_OF_CHARACTERSnSIX_OF_CHARACTERSoEVEN_OF_CHARACTERSnEIGHT_OF_CHARACTERSnNINE_OF_CHARACTERSnON
  E_OF_BAMBOOSnTWO_OF_BAMBOOSoHREE_OF_BAMBOOSnFOUR_OF_BAMBOOSoIVE_OF_BAMBOOSnSIX_OF_BAMBOOSoEVEN_O
  F_BAMBOOSnEIGHT_OF_BAMBOOSnNINE_OF_BAMBOOSnONE_OF_CIRCLESnTWO_OF_CIRCLESoHREE_OF_CIRCLESnFOUR_OF
  _CIRCLESoIVE_OF_CIRCLESnSIX_OF_CIRCLESoEVEN_OF_CIRCLESnEIGHT_OF_CIRCLESnNINE_OF_CIRCLESnPLUMnORC
  HIDnBAMBOOnCHRYSANTHEMUMnSPRINGoUMMERnAUTUMNnWINTERnJOKERnBACK=1F030aDOMINO_TILE_HORIZONTAL_BACK
  w-00-00$1$2$3$4$5$6y1-00$1$2$3$4$5$6y2-00$1$2$3$4$5$6y3-00$1$2$3$4$5$6y4-00$1$2$3$4$5$6y5-00$1$2
  $3$4$5$6y6-00$1$2$3$4$5$6mVERTICAL_BACKu-00-00z1z2z3z4z5z6w1-00z1z2z3z4z5z6w2-00z1z2z3z4z5z6w3-0
  0z1z2z3z4z5z6w4-00z1z2z3z4z5z6w5-00z1z2z3z4z5z6w6-00z1z2z3z4z5z6=1F0A0aPLAYING_CARD_BACKnACE_OF_
  SPADESnTWO_OF_SPADESoHREE_OF_SPADESnFOUR_OF_SPADESoIVE_OF_SPADESnSIX_OF_SPADESoEVEN_OF_SPADESnEI
  GHT_OF_SPADESnNINE_OF_SPADESnTEN_OF_SPADESnJACK_OF_SPADESnKNIGHT_OF_SPADESnQUEEN_OF_SPADESnKING_
  OF_SPADES=1F0B1nACE_OF_HEARTSnTWO_OF_HEARTSoHREE_OF_HEARTSnFOUR_OF_HEARTSoIVE_OF_HEARTSnSIX_OF_H
  EARTSoEVEN_OF_HEARTSnEIGHT_OF_HEARTSnNINE_OF_HEARTSnTEN_OF_HEARTSnJACK_OF_HEARTSnKNIGHT_OF_HEART
  SnQUEEN_OF_HEARTSnKING_OF_HEARTSnRED_JOKER=1F0C1nACE_OF_DIAMONDSnTWO_OF_DIAMONDSoHREE_OF_DIAMOND
  SnFOUR_OF_DIAMONDSoIVE_OF_DIAMONDSnSIX_OF_DIAMONDSoEVEN_OF_DIAMONDSnEIGHT_OF_DIAMONDSnNINE_OF_DI
  AMONDSnTEN_OF_DIAMONDSnJACK_OF_DIAMONDSnKNIGHT_OF_DIAMONDSnQUEEN_OF_DIAMONDSnKING_OF_DIAMONDSnBL
  ACK_JOKER=1F0D1nACE_OF_CLUBSnTWO_OF_CLUBSoHREE_OF_CLUBSnFOUR_OF_CLUBSoIVE_OF_CLUBSnSIX_OF_CLUBSo
  EVEN_OF_CLUBSnEIGHT_OF_CLUBSnNINE_OF_CLUBSnTEN_OF_CLUBSnJACK_OF_CLUBSnKNIGHT_OF_CLUBSnQUEEN_OF_C
  LUBSnKING_OF_CLUBSnWHITE_JOKERnFOOLnTRUMP-1t2t3t4t5t6t7t8t9t10u1u2u3u4u5u6u7u8u9t20u1=1F100aDIGI
  T_ZERO_FULL_STOPlCOMMAgONE_COMMAgTWO_COMMAhHREE_COMMAgFOUR_COMMAhIVE_COMMAgSIX_COMMAhEVEN_COMMAg
  EIGHT_COMMAgNINE_COMMAcNGBAT_CIRCLED_SANS-SERIF_DIGIT_ZEROiNEGATIVE_CIRCLED_SANS-SERIF_DIGIT_ZER
  OaCIRCLED_ZERO@SLASHiANTICLOCKWISE[iDOLLAR_SIGN@OVERLAID_BACKSLASHaPARENTHESIZED_LATIN_(:A<B<C<D
  <E<F<G<H<I<J<K<L<M<N<O<P<Q<R<S<T<U<V<W<X<Y<ZaTORTOISE_SHELL_BRACKETED_LATIN_(:SaCIRCLED_ITALIC_L
  ATIN_(:C>RiCDiWZbOPYLEFT_SYMBOLaSQUARED_LATIN_(:A&B&C&D&E&F&G&H&I&J&K&L&M&N&O&P&Q&R&S&T&U&V&W&X&
  Y&ZiHViMViSDjSiPPViWCaNEGATIVE_CIRCLED_LATIN_(:A^B^C^D^E^F^G^H^I^J^K^L^M^N^O^P^Q^R^S^T^U^V^W^X^Y
  ^ZaRAISED_MC_SIGNiD_SIGNiR_SIGNaCIRCLED_CCj@OVERLAID_BACKSLASHiHUMAN_FIGUREaNEGATIVE_SQUARED_LAT
  IN_(:A^B^C^D^E^F^G^H^I^J^K^L^M^N^O^P^Q^R^S^T^U^V^W^X^Y^ZaCROSSED_NEGATIVE_SQUARED_LATIN_(:PaNEGA
  TIVE_SQUARED_ICrPArSArABrWCaSQUARE_DJgD_CLjOOLiFREEiIDiNEWjGiOKiSOSiUP@EXCLAMATION_MARKiVSiTHREE
  _DiSECOND_SCREENiTWO_KiFOUR_KiEIGHT_KiFIVE_POINT_ONEiSEVEN_POINT_ONEiTWENTY-TWO_POINT_TWOiSIXTY_
  PiONE_HUNDRED_TWENTY_PiLATIN_):DiHCjDRjI-RESiLOSSLESSiSHViUHDiVODaMASK_WORK_SYMBOL=1F1E6aREGIONA
  L_INDICATOR_SYMBOL:A.B.C.D.E.F.G.H.I.J.K.L.M.N.O.P.Q.R.S.T.U.V.W.X.Y.ZaSQUARE_HIRAGANA_HOKAgD_KA
  TAKANA_KOKOrSA=1F210iCJK_UNIFIED_IDEOGRAPH-624B*5B57+3CCiKATAKANA_DEiCJK_UNIFIED_IDEOGRAPH-4E8C*
  591A*89E3*5929*4EA4*6620*7121*6599*524D+F8C+18D*65B0*521D*7D42+51F*8CA9*58F0+439*6F14+295+355*4E
  00.9*904A*5DE6*4E2D*53F3*6307*8D70*6253*7981+A7A*5408*6E80+709.8*7533*5272+5B6*914D=1F240aTORTOI
  SE_SHELL_BRACKETED_CJK_UNIFIED_IDEOGRAPH-672C~OGRAPH-4E09~OGRAPH-4E8C~OGRAPH-5B89~OGRAPH-70B9~OG
  RAPH-6253~OGRAPH-76D7~OGRAPH-52DD~OGRAPH-6557=1F250aCIRCLED_IDEOGRAPH_ADVANTAGEtCCEPT=1F260aROUN
  DED_SYMBOL_FOR_FUtLUtSHOUtXItSHUANGXItCAI=1F300aCYCLONEaFOGGYaCLOSED_UMBRELLAaNIGHT@STARSaSUNRIS
  E_OVER_MOUNTAINShaCITYSCAPE_AT_DUSKaSUNSET_OVER_BUILDINGSaRAINBOWaBRIDGE_AT_NIGHTaWATER_WAVEaVOL
  CANOaMILKY_WAYaEARTH_GLOBE_EUROPE-AFRICAmAMERICASnSIA-AUSTRALIAaGLOBE@MERIDIANSaNEW_MOON_SYMBOLa
  WAXING_CRESCENT_MOON_SYMBOLaFIRST_QUARTER_MOON_SYMBOLaWAXING_GIBBOUS_MOON_SYMBOLaFULL_MOON_SYMBO
  LaWANING_GIBBOUS_MOON_SYMBOLaLAST_QUARTER_MOON_SYMBOLaWANING_CRESCENT_MOON_SYMBOLaCRESCENT_MOONa
  NEW_MOON@FACEaFIRST_QUARTER_MOON@FACEaLAST_QUARTER_MOON@FACEaFULL_MOON@FACEaSUN@FACEaGLOWING_STA
  RaSHOOTING_STARaTHERMOMETERaBLACK_DROPLETaWHITE_SUNj@)_CLOUDkBEHIND_CLOUDw@RAINaCLOUD@RAINlSNOWl
  LIGHTNINGlTORNADOaFOGaWIND_BLOWING_FACEaHOT_DOGaTACOaBURRITOaCHESTNUTaSEEDLINGaEVERGREEN_TREEaDE
  CIDUOUS_TREEaPALM_TREEaCACTUSaHOT_PEPPERaTULIPaCHERRY_BLOSSOMaROSEaHIBISCUSaSUNFLOWERaBLOSSOMaEA
  R_OF_MAIZEhRICEaHERBaFOUR_LEAF_CLOVERaMAPLE_LEAFaFALLEN_LEAFaLEAF_FLUTTERING_IN_WINDaMUSHROOMaTO
  MATOaAUBERGINEaGRAPESaMELONaWATERMELONaTANGERINEaLEMONaBANANAaPINEAPPLEaRED_APPLEaGREEN_APPLEaPE
  ARdCHaCHERRIESaSTRAWBERRYaHAMBURGERaSLICE_OF_PIZZAaMEAT_ON_BONEaPOULTRY_LEGaRICE_CRACKERfBALLaCO
  OKED_RICEbURRY/RICEaSTEAMING_BOWLbPAGHETTIaBREADaFRENCH_FRIESaROASTED_SWEET_POTATOaDANGOaODENaSU
  SHIaFRIED_SHRIMPbISH_CAKE@SWIRL_DESIGNaSOFT_ICE_CREAMbHAVED_ICEaICE_CREAMaDOUGHNUTaCOOKIEbHOCOLA
  TE_BARbANDYaLOLLIPOPaCUSTARDaHONEY_POTaSHORTCAKEaBENTO_BOXaPOT_OF_FOODaCOOKINGaFORK/KNIFEaTEACUP
  _WITHOUT_HANDLEaSAKE_BOTTLE/CUPaWINE_GLASSaCOCKTAIL_GLASSaTROPICAL_DRINKaBEER_MUGaCLINKING_BEER_
  MUGSaBABY_BOTTLEaFORK/KNIFE@PLATEaBOTTLE@POPPING_CORKaPOPCORNaRIBBONaWRAPPED_PRESENTaBIRTHDAY_CA
  KEaJACK-O-LANTERNaCHRISTMAS_TREEaFATHER_CHRISTMASbIREWORKSi_SPARKLERaBALLOONaPARTY_POPPERaCONFET
  TI_BALLaTANABATA_TREEaCROSSED_FLAGSaPINE_DECORATIONaJAPANESE_DOLLSaCARP_STREAMERaWIND_CHIMEaMOON
  _VIEWING_CEREMONYaSCHOOL_SATCHELaGRADUATION_CAPaHEART@TIP_ON_THE_LEFTaBOUQUET_OF_FLOWERSaMILITAR
  Y_MEDALaREMINDER_RIBBONaMUSICAL_KEYBOARD@JACKSaSTUDIO_MICROPHONEaLEVEL_SLIDERaCONTROL_KNOBSaBEAM
  ED_ASCENDING_MUSICAL_NOTEShDESCENDING_MUSICAL_NOTESaFILM_FRAMESaADMISSION_TICKETSaCAROUSEL_HORSE
  aFERRIS_WHEELaROLLER_COASTERaFISHING_POLE/FISHaMICROPHONEbOVIE_CAMERAaCINEMAaHEADPHONEaARTIST_PA
  LETTEaTOP_HATaCIRCUS_TENTaTICKETaCLAPPER_BOARDaPERFORMING_ARTSaVIDEO_GAMEaDIRECT_HITaSLOT_MACHIN
  EaBILLIARDSaGAME_DIEaBOWLINGaFLOWER_PLAYING_CARDSaMUSICAL_NOTEcLTIPLE_MUSICAL_NOTESaSAXOPHONEaGU
  ITARaMUSICAL_KEYBOARDaTRUMPETaVIOLINaMUSICAL_SCOREaRUNNING_SHIRT@SASHaTENNIS_RACQUET/BALLaSKI/SK
  I_BOOTaBASKETBALL/HOOPaCHEQUERED_FLAGaSNOWBOARDERaRUNNERaSURFERbPORTS_MEDALaTROPHYaHORSE_RACINGa
  AMERICAN_FOOTBALLaRUGBY_FOOTBALLaSWIMMERaWEIGHT_LIFTERaGOLFERaRACING_MOTORCYCLEhCARaCRICKET_BAT/
  BALLaVOLLEYBALLaFIELD_HOCKEY_STICK/BALLaICE_HOCKEY_STICK/PUCKaTABLE_TENNIS_PADDLE/BALLaSNOW_CAPP
  ED_MOUNTAINaCAMPINGaBEACH@UMBRELLAbUILDING_CONSTRUCTIONaHOUSE_BUILDINGSaCITYSCAPEaDERELICT_HOUSE
  _BUILDINGaCLASSICAL_BUILDINGaDESERTg_ISLANDaNATIONAL_PARKaSTADIUMaHOUSE_BUILDINGgWITH_GARDENaOFF
  ICE_BUILDINGaJAPANESE_POST_OFFICEaEUROPEAN_POST_OFFICEaHOSPITALaBANKaAUTOMATED_TELLER_MACHINEaHO
  TELaLOVE_HOTELaCONVENIENCE_STOREaSCHOOLaDEPARTMENT_STOREaFACTORYaIZAKAYA_LANTERNaJAPANESE_CASTLE
  aEUROPEAN_CASTLEaWHITE_PENNANTaBLACK_PENNANTaWAVING_WHITE_FLAGhBLACK_FLAGaROSETTEaBLACK_ROSETTEa
  LABELaBADMINTON_RACQUET/SHUTTLECOCKbOW_AND[aAMPHORAaEMOJI_MODIFIER_FITZPATRICK_TYPE-1-2,3,4,5,6a
  RATaMOUSEaOXaWATER_BUFFALOaCOWaTIGERaLEOPARDaRABBITaCATaDRAGONaCROCODILEaWHALEaSNAILdKEaHORSEaRA
  MaGOATaSHEEPaMONKEYaROOSTERaCHICKENaDOGaPIGaBOARaELEPHANTaOCTOPUSaSPIRAL_SHELLaBUGaANTaHONEYBEEa
  LADY_BEETLEaFISHaTROPICAL_FISHaBLOWFISHaTURTLEaHATCHING_CHICKaBABY_CHICKaFRONT-FACING_BABY_CHICK
  aBIRDaPENGUINaKOALAaPOODLEaDROMEDARY_CAMELaBACTRIAN_CAMELaDOLPHINaMOUSE_FACEaCOW_FACEaTIGER_FACE
  aRABBIT_FACEaCAT_FACEaDRAGON_FACEaSPOUTING_WHALEaHORSE_FACEaMONKEY_FACEaDOG_FACEaPIG_FACEaFROG_F
  ACEaHAMSTER_FACEaWOLF_FACEaBEAR_FACEaPANDA_FACEbIG_NOSEbAW_PRINTSaCHIPMUNKaEYESdbARaNOSEaMOUTHaT
  ONGUEaWHITE_UP_POINTING_BACKHAND_INDEXgDOWN_POINTING_BACKHAND_INDEXgLEFT_POINTING_BACKHAND_INDEX
  gRIGHT_POINTING_BACKHAND_INDEXaFISTED_HAND_SIGNaWAVING_HAND_SIGNaOK_HAND_SIGNaTHUMBS_UP_SIGNhDOW
  N_SIGNaCLAPPING_HANDS_SIGNaOPEN_HANDS_SIGNaCROWNaWOMANS_HATaEYEGLASSESaNECKTIEaT-SHIRTaJEANSaDRE
  SSaKIMONOaBIKINIaWOMANS_CLOTHESaPURSEaHANDBAGaPOUCHaMANS_SHOEaATHLETIC_SHOEaHIGH-HEELED_SHOEaWOM
  ANS_SANDALhBOOTSaFOOTPRINTSaBUST_IN_SILHOUETTEeS_IN_SILHOUETTEbOYaGIRLaMANaWOMANaFAMILYaMAN/WOMA
  N_HOLDING_HANDSaTWO_MEN_HOLDING_HANDSeWOMEN_HOLDING_HANDSaPOLICE_OFFICERaWOMAN@BUNNY_EARSaBRIDE@
  VEILaPERSON@BLOND_HAIRaMAN@GUA_PI_MAOjTURBANaOLDER_MANgWOMANaBABYaCONSTRUCTION_WORKERaPRINCESSaJ
  APANESE_OGREjGOBLINaGHOSTaBABY_ANGELaEXTRATERRESTRIAL_ALIENaALIEN_MONSTERaIMPaSKULLaINFORMATION_
  DESK_PERSONaGUARDSMANaDANCERaLIPSTICKaNAIL_POLISHaFACE_MASSAGEaHAIRCUTaBARBER_POLEaSYRINGEaPILLa
  KISS_MARKaLOVE_LETTERaRINGaGEM_STONEaKISSaBOUQUETaCOUPLE@HEARTaWEDDINGaBEATING_HEARTbROKEN_HEART
  aTWO_HEARTSaSPARKLING_HEARTaGROWING_HEARTaHEART@ARROWaBLUE_HEARTaGREEN_HEARTaYELLOW_HEARTaPURPLE
  _HEARTaHEART@RIBBONaREVOLVING_HEARTSaHEART_DECORATIONaDIAMOND_SHAPE@A_DOT_INSIDEaELECTRIC_LIGHT_
  BULBaANGER_SYMBOLaBOMBaSLEEPING_SYMBOLaCOLLISION_SYMBOLaSPLASHING_SWEAT_SYMBOLaDROPLETbASH_SYMBO
  LaPILE_OF_POOaFLEXED_BICEPSaDIZZY_SYMBOLaSPEECH_BALLOONaTHOUGHT_BALLOONaWHITE_FLOWERaHUNDRED_POI
  NTS_SYMBOLaMONEY_BAGaCURRENCY_EXCHANGEaHEAVY_DOLLAR_SIGNaCREDIT_CARDaBANKNOTE@YEN_SIGNoDOLLAR_SI
  GNoEURO_SIGNoPOUND_SIGNaMONEY@WINGSaCHART@UPWARDS_TREND/YEN_SIGNaSEATaPERSONAL_COMPUTERaBRIEFCAS
  EaMINIDISCaFLOPPY_DISKaOPTICAL_DISCaDVDaFILE_FOLDERaOPEN_FILE_FOLDERaPAGE@CURLfFACING_UPaCALENDA
  RaTEAR-OFF_CALENDARaCARD_INDEXbHART@UPWARDS_TRENDlDOWNWARDS_TRENDaBAR_CHARTaCLIPBOARDaPUSHPINaRO
  UND_PUSHPINaPAPERCLIPaSTRAIGHT_RULERaTRIANGULAR_RULERaBOOKMARK_TABSaLEDGERaNOTEBOOKi@DECORATIVE_
  COVERaCLOSED_BOOKaOPEN_BOOKaGREEN_BOOKaBLUE_BOOKaORANGE_BOOKaBOOKSaNAME_BADGEaSCROLLaMEMOaTELEPH
  ONE_RECEIVERaPAGERaFAX_MACHINEaSATELLITE_ANTENNAaPUBLIC_ADDRESS_LOUDSPEAKERaCHEERING_MEGAPHONEaO
  UTBOX_TRAYaINBOX_TRAYaPACKAGEaE-MAIL_SYMBOLaINCOMING_ENVELOPEaENVELOPE@DOWNWARDS[_ABOVEaCLOSED_M
  AILBOX@LOWERED_FLAGuRAISED_FLAGaOPEN_MAILBOX@RAISED_FLAGsLOWERED_FLAGaPOSTBOXeAL_HORNaNEWSPAPERa
  MOBILE_PHONEm@RIGHTWARDS[_AT_LEFTaVIBRATION_MODEaMOBILE_PHONE_OFFaNO_MOBILE_PHONESaANTENNA@BARSa
  CAMERAg@FLASHaVIDEO_CAMERAaTELEVISIONaRADIOaVIDEOCASSETTEaFILM_PROJECTORaPORTABLE_STEREObRAYER_B
  EADSaTWISTED_RIGHTWARDS[SaCLOCKWISE_RIGHTWARDS/LEFTWARDS_OPEN_CIRCLE[S~CIRCLE[S@CIRCLED_ONE_OVER
  LAYkDOWNWARDS/UPWARDS_OPEN_CIRCLE[SaANTICLOCKWISE_DOWNWARDS/UPWARDS_OPEN_CIRCLE[SaLOW_BRIGHTNESS
  _SYMBOLaHIGH_BRIGHTNESS_SYMBOLaSPEAKER@CANCELLATION_STROKEhh@ONE_SOUND_WAVEnTHREE_SOUND_WAVESaBA
  TTERYaELECTRIC_PLUGaLEFT-POINTING_MAGNIFYING_GLASSaRIGHT-POINTING_MAGNIFYING_GLASSaLOCK@INK_PENa
  CLOSED_LOCK@KEYaKEYaLOCKaOPEN_LOCKaBELLe@CANCELLATION_STROKEbOOKMARKaLINK_SYMBOLaRADIO_BUTTONaBA
  CK@LEFTWARDS[_ABOVEaEND@LEFTWARDS[_ABOVEaON@EXCLAMATION_MARK@LEFT_RIGHT[_ABOVEaSOON@RIGHTWARDS[_
  ABOVEaTOP@UPWARDS[_ABOVEaNO_ONE_UNDER_EIGHTEEN_SYMBOLaKEYCAP_TENaINPUT_SYMBOL_FOR_LATIN_(_LETTER
  Sx)_LETTERSrNUMBERSrSYMBOLSrLATIN_LETTERSaFIREaELECTRIC_TORCHaWRENCHaHAMMERaNUT/BOLTaHOCHOaPISTO
  LaMICROSCOPEaTELESCOPEaCRYSTAL_BALLaSIX_POINTED_STAR@MIDDLE_DOTaJAPANESE_SYMBOL_FOR_BEGINNERaTRI
  DENT_EMBLEMaBLACK_SQUARE_BUTTONaWHITE_SQUARE_BUTTONaLARGE_RED_CIRCLEgBLUE_CIRCLEgORANGE_DIAMONDg
  BLUE_DIAMONDa)_ORANGE_DIAMONDgBLUE_DIAMONDaUP-POINTING_RED_TRIANGLEaDOWN-POINTING_RED_TRIANGLEaU
  P-POINTING_)_RED_TRIANGLEaDOWN-POINTING_)_RED_TRIANGLEaLOWER_RIGHT_SHADOWED_WHITE_CIRCLEaUPPER_R
  IGHT_SHADOWED_WHITE_CIRCLEaCIRCLED_CROSS_POMMEEbROSS_POMMEE@HALF-CIRCLE_BELOWmaNOTCHED_LEFT_SEMI
  CIRCLE@THREE_DOTSiRIGHT_SEMICIRCLE@THREE_DOTSaSYMBOL_FOR_MARKS_CHAPTERaWHITE_LATIN_CROSSaHEAVY_L
  ATIN_CROSSaCELTIC_CROSSaOM_SYMBOLaDOVE_OF_PEACEaKAABAaMOSQUEaSYNAGOGUEaMENORAH@NINE_BRANCHESaBOW
  L_OF_HYGIEIAaCLOCK_FACE_ONE_OCLOCKlTWO_OCLOCKmHREE_OCLOCKlFOUR_OCLOCKmIVE_OCLOCKlSIX_OCLOCKmEVEN
  _OCLOCKlEIGHT_OCLOCKlNINE_OCLOCKlTEN_OCLOCKlELEVEN_OCLOCKlTWELVE_OCLOCKlONE-THIRTYlTWO-THIRTYmHR
  EE-THIRTYlFOUR-THIRTYmIVE-THIRTYlSIX-THIRTYmEVEN-THIRTYlEIGHT-THIRTYlNINE-THIRTYlTEN-THIRTYlELEV
  EN-THIRTYlTWELVE-THIRTYaRIGHT_SPEAKERn@ONE_SOUND_WAVEtTHREE_SOUND_WAVESaBULLHORNi@SOUND_WAVESaRI
  NGING_BELLaBOOKaCANDLEaMANTELPIECE_CLOCKaBLACK_SKULL/CROSSBONESaNO_PIRACYaHOLEaMAN_IN_BUSINESS_S
  UIT_LEVITATINGaSLEUTH_OR_SPYaDARK_SUNGLASSESaSPIDERg_WEBaJOYSTICKaMAN_DANCINGaLEFT_HAND_TELEPHON
  E_RECEIVERaTELEPHONE_RECEIVER@PAGEaRIGHT_HAND_TELEPHONE_RECEIVERaWHITE_TOUCHTONE_TELEPHONEaBLACK
  _TOUCHTONE_TELEPHONEaTELEPHONE_ON_TOP_OF_MODEMaCLAMSHELL_MOBILE_PHONEaBACK_OF_ENVELOPEaSTAMPED_E
  NVELOPEaENVELOPE@LIGHTNINGaFLYING_ENVELOPEaPEN_OVER_STAMPED_ENVELOPEaLINKED_PAPERCLIPSaBLACK_PUS
  HPINaLOWER_LEFT_PENCILlBALLPOINT_PENlFOUNTAIN_PENlPAINTBRUSHlCRAYONbEFT_WRITING_HANDaTURNED_OK_H
  AND_SIGNaRAISED_HAND@FINGERS_SPLAYEDbEVERSED_RAISED_HAND@FINGERS_SPLAYEDjTHUMBS_UP_SIGNqDOWN_SIG
  NjVICTORY_HANDjHAND@MIDDLE_FINGER_EXTENDEDbAISED_HAND@PART_BETWEEN_MIDDLE/RING_FINGERSaWHITE_DOW
  N_POINTING_LEFT_HAND_INDEXaSIDEWAYS_WHITE_LEFT_POINTING_INDEXpRIGHT_POINTING_INDEXjBLACK_LEFT_PO
  INTING_INDEXpRIGHT_POINTING_INDEXaBLACK_LEFT_POINTING_BACKHAND_INDEXgRIGHT_POINTING_BACKHAND_IND
  EXaSIDEWAYS_WHITE_UP_POINTING_INDEXpDOWN_POINTING_INDEXjBLACK_UP_POINTING_INDEXpDOWN_POINTING_IN
  DEXaBLACK_UP_POINTING_BACKHAND_INDEXgDOWN_POINTING_BACKHAND_INDEXgHEARTaDESKTOP_COMPUTERaKEYBOAR
  D/MOUSEaTHREE_NETWORKED_COMPUTERSaPRINTERbOCKET_CALCULATORaBLACK_HARD_SHELL_FLOPPY_DISKaWHITE_HA
  RD_SHELL_FLOPPY_DISKaSOFT_SHELL_FLOPPY_DISKaTAPE_CARTRIDGEaWIRED_KEYBOARDaONE_BUTTON_MOUSEaTWO_B
  UTTON_MOUSEbHREE_BUTTON_MOUSEbRACKBALLaOLD_PERSONAL_COMPUTERaHARD_DISKaSCREENaPRINTER_ICONaFAX_I
  CONaOPTICAL_DISC_ICONaDOCUMENT@TEXTs/PICTUREoPICTUREaFRAME@PICTURElTILESlAN_XaBLACK_FOLDERaFOLDE
  RaOPEN_FOLDERaCARD_INDEX_DIVIDERSfFILE_BOXaFILE_CABINETaEMPTY_NOTEk_PAGEnDaNOTEe_PAGEhDaEMPTY_DO
  CUMENTgPAGEkSaDOCUMENTaPAGEeSaWASTEBASKETaSPIRAL_NOTE_PADhCALENDAR_PADaDESKTOP_WINDOWaMINIMIZEbA
  XIMIZEaOVERLAPaCLOCKWISE_RIGHT/LEFT_SEMICIRCLE[SbANCELLATION_XaINCREASE_FONT_SIZE_SYMBOLaDECREAS
  E_FONT_SIZE_SYMBOLaCOMPRESSIONaOLD_KEYaROLLED-UP_NEWSPAPERaPAGE@CIRCLED_TEXTaSTOCK_CHARTaDAGGER_
  KNIFEaLIPSaSPEAKING_HEAD_IN_SILHOUETTEaTHREE_RAYS_ABOVElBELOWlLEFTlRIGHTaLEFT_SPEECH_BUBBLEaRIGH
  T_SPEECH_BUBBLEaTWO_SPEECH_BUBBLESbHREE_SPEECH_BUBBLESaLEFT_THOUGHT_BUBBLEaRIGHT_THOUGHT_BUBBLEa
  LEFT_ANGER_BUBBLEaRIGHT_ANGER_BUBBLEaMOOD_BUBBLEaLIGHTNING_MOOD_BUBBLEoaBALLOT_BOX@BALLOThSCRIPT
  _XhBOX@SCRIPT_XjLD_SCRIPT_XjX@BOLD_SCRIPT_XaLIGHT_CHECK_MARKaBALLOT_BOX@BOLD_CHECKaWORLD_MAPaMOU
  NT_FUJIaTOKYO_TOWERaSTATUE_OF_LIBERTYbILHOUETTE_OF_JAPANaMOYAIaGRINNING_FACEn@SMILING_EYESaFACE@
  TEARS_OF_JOYaSMILING_FACE@OPEN_MOUTH%/SMILING_EYES.COLD_SWEAT.TIGHTLY-CLOSED_EYESsHALOtORNSaWINK
  ING_FACEaSMILING_FACE@SMILING_EYESaFACE_SAVOURING_DELICIOUS_FOODaRELIEVED_FACEaSMILING_FACE@HEAR
  T-SHAPED_EYESsSUNGLASSESdRKING_FACEaNEUTRAL_FACEaEXPRESSIONLESS_FACEaUNAMUSED_FACEaFACE@COLD_SWE
  ATaPENSIVE_FACEaCONFUSED_FACEeOUNDED_FACEaKISSING_FACEaFACE_THROWING_A_KISSaKISSING_FACE@SMILING
  _EYESsCLOSED_EYESaFACE@STUCK-OUT_TONGUE!/WINKING_EYE+TIGHTLY-CLOSED_EYESaDISAPPOINTED_FACEaWORRI
  ED_FACEaANGRY_FACEaPOUTING_FACEaCRYING_FACEaPERSEVERING_FACEaFACE@LOOK_OF_TRIUMPHaDISAPPOINTED_B
  UT_RELIEVED_FACEaFROWNING_FACE@OPEN_MOUTHaANGUISHED_FACEaFEARFUL_FACEaWEARY_FACEaSLEEPY_FACEaTIR
  ED_FACEaGRIMACING_FACEaLOUDLY_CRYING_FACEaFACE@OPEN_MOUTHaHUSHED_FACEaFACE@OPEN_MOUTH/COLD_SWEAT
  fSCREAMING_IN_FEARaASTONISHED_FACEaFLUSHED_FACEaSLEEPING_FACEaDIZZY_FACEaFACE_WITHOUT_MOUTHj_MED
  ICAL_MASKaGRINNING_CAT_FACE@SMILING_EYESaCAT_FACE@TEARS_OF_JOYaSMILING_CAT_FACE@OPEN_MOUTHwHEART
  -SHAPED_EYESaCAT_FACE@WRY_SMILEaKISSING_CAT_FACE@CLOSED_EYESaPOUTING_CAT_FACEaCRYING_CAT_FACEaWE
  ARY_CAT_FACEaSLIGHTLY_FROWNING_FACEjSMILING_FACEaUPSIDE-DOWN_FACEaFACE@ROLLING_EYESkNO_GOOD_GEST
  UREkOK_GESTUREaPERSON_BOWING_DEEPLYaSEE-NO-EVIL_MONKEYaHEAR-NO-EVIL_MONKEYaSPEAK-NO-EVIL_MONKEYa
  HAPPY_PERSON_RAISING_ONE_HANDaPERSON_RAISING_BOTH_HANDS_IN_CELEBRATIONhFROWNINGhWITH_POUTING_FAC
  EmFOLDED_HANDSaNORTH_WEST_POINTING_LEAFaSOUTH_WEST_POINTING_LEAFaNORTH_EAST_POINTING_LEAFaSOUTH_
  EAST_POINTING_LEAFaTURNED_NORTH_WEST_POINTING_LEAFhSOUTH_WEST_POINTING_LEAFhNORTH_EAST_POINTING_
  LEAFhSOUTH_EAST_POINTING_LEAFaNORTH_WEST_POINTING_VINE_LEAFaSOUTH_WEST_POINTING_VINE_LEAFaNORTH_
  EAST_POINTING_VINE_LEAFaSOUTH_EAST_POINTING_VINE_LEAFaHEAVY_NORTH_WEST_POINTING_VINE_LEAFgSOUTH_
  WEST_POINTING_VINE_LEAFgNORTH_EAST_POINTING_VINE_LEAFgSOUTH_EAST_POINTING_VINE_LEAFaNORTH_WEST_P
  OINTING_BUDaSOUTH_WEST_POINTING_BUDaNORTH_EAST_POINTING_BUDaSOUTH_EAST_POINTING_BUDaHEAVY_NORTH_
  WEST_POINTING_BUDgSOUTH_WEST_POINTING_BUDgNORTH_EAST_POINTING_BUDgSOUTH_EAST_POINTING_BUDbOLLOW_
  QUILT_SQUARE_ORNAMENT%_IN_BLACK_SQUAREaSOLID_QUILT_SQUARE_ORNAMENT$_IN_BLACK_SQUAREaLEFTWARDS_RO
  CKETaUPWARDS_ROCKETaRIGHTWARDS_ROCKETaDOWNWARDS_ROCKETaSCRIPT_LIGATURE_ET_ORNAMENTaHEAVY_SCRIPT_
  LIGATURE_ET_ORNAMENTaLIGATURE_OPEN_ET_ORNAMENTaHEAVY_LIGATURE_OPEN_ET_ORNAMENTgAMPERSAND_ORNAMEN
  TaSWASH_AMPERSAND_ORNAMENTbANS-SERIF_HEAVY_DOUBLE_TURNED_COMMA_QUOTATION_MARK_ORNAMENTyCOMMA_QUO
  TATION_MARK_ORNAMENTrLOW_DOUBLE_COMMA_QUOTATION_MARK_ORNAMENTaHEAVY_INTERROBANG_ORNAMENTaSANS-SE
  RIF_INTERROBANG_ORNAMENTaHEAVY_SANS-SERIF_INTERROBANG_ORNAMENTaVERY_HEAVY_SOLIDUSlREVERSE_SOLIDU
  SaCHECKER_BOARDaREVERSE_CHECKER_BOARDbOCKETaHELICOPTERaSTEAM_LOCOMOTIVEaRAILWAY_CARaHIGH-SPEED_T
  RAINq@BULLET_NOSEaTRAINaMETROaLIGHT_RAILaSTATIONaTRAMe_CARaBUSaONCOMING_BUSaTROLLEYBUSaBUS_STOPa
  MINIBUSaAMBULANCEaFIRE_ENGINEaPOLICE_CARaONCOMING_POLICE_CARaTAXIaONCOMING_TAXIaAUTOMOBILEaONCOM
  ING_AUTOMOBILEaRECREATIONAL_VEHICLEaDELIVERY_TRUCKaARTICULATED_LORRYaTRACTORaMONORAILcUNTAIN_RAI
  LWAYaSUSPENSION_RAILWAYaMOUNTAIN_CABLEWAYaAERIAL_TRAMWAYaSHIPaROWBOATaSPEEDBOATaHORIZONTAL_TRAFF
  IC_LIGHTaVERTICAL_TRAFFIC_LIGHTaCONSTRUCTION_SIGNaPOLICE_CARS_REVOLVING_LIGHTaTRIANGULAR_FLAG_ON
  _POSTaDOORaNO_ENTRY_SIGNaSMOKING_SYMBOLaNO_SMOKING_SYMBOLaPUT_LITTER_IN_ITS_PLACE_SYMBOLaDO_NOT_
  LITTER_SYMBOLaPOTABLE_WATER_SYMBOLaNON-POTABLE_WATER_SYMBOLaBICYCLEaNO_BICYCLESaBICYCLISTaMOUNTA
  IN_BICYCLISTaPEDESTRIANaNO_PEDESTRIANSaCHILDREN_CROSSINGaMENS_SYMBOLaWOMENS_SYMBOLaRESTROOMaBABY
  _SYMBOLaTOILETaWATER_CLOSETaSHOWERaBATHeTUBaPASSPORT_CONTROLaCUSTOMSaBAGGAGE_CLAIMaLEFT_LUGGAGEa
  TRIANGLE@ROUNDED_CORNERSaPROHIBITED_SIGNaCIRCLED_INFORMATION_SOURCEaBOYS_SYMBOLaGIRLS_SYMBOLaCOU
  CH/LAMPaSLEEPING_ACCOMMODATIONbHOPPING_BAGSaBELLHOP_BELLcDaPLACE_OF_WORSHIPaOCTAGONAL_SIGNaSHOPP
  ING_TROLLEYbTUPAaPAGODAaHINDU_TEMPLEbUTaELEVATOR=1F6DDaPLAYGROUND_SLIDEaWHEELaRING_BUOYaHAMMER/W
  RENCHaSHIELDaOIL_DRUMaMOTORWAYaRAILWAY_TRACKaMOTOR_BOATaUP-POINTING_MILITARY_AIRPLANEmAIRPLANEm)
  _AIRPLANEa)_AIRPLANEaNORTHEAST-POINTING_AIRPLANEaAIRPLANE_DEPARTUREjARRIVING=1F6F0aSATELLITEaONC
  OMING_FIRE_ENGINEaDIESEL_LOCOMOTIVEaPASSENGER_SHIPaSCOOTERaMOTOR_SCOOTERaCANOEaSLEDaFLYING_SAUCE
  RaSKATEBOARDaAUTO_RICKSHAWaPICKUP_TRUCKaROLLER_SKATE=1F700aALCHEMICAL_SYMBOL_FOR_QUINTESSENCEwAI
  RwFIREwEARTHwWATERwAQUAFORTIS!_REGIA,-2$VITAE,-2wVINEGAR&-2*3wSULFURwPHILOSOPHERS_SULFURwBLACK_S
  ULFURwMERCURY_SUBLIMATE|-2~3wCINNABARwSALTwNITREwVITRIOL&-2wROCK_SALT+-2wGOLDwSILVERwIRON_ORE*-2
  wCROCUS_OF_IRONwREGULUS_OF_IRONwCOPPER_OREwIRON-COPPER_OREwSUBLIMATE_OF_COPPERwCROCUS_OF_COPPER^
  -2xOPPER_ANTIMONIATEwSALT_OF_COPPER_ANTIMONIATExUBLIMATE_OF_SALT_OF_COPPERwVERDIGRISwTIN_OREwLEA
  D_OREwANTIMONY_OREwSUBLIMATE_OF_ANTIMONYxALT_OF_ANTIMONYxUBLIMATE_OF_SALT_OF_ANTIMONYwVINEGAR_OF
  _ANTIMONYwREGULUS_OF_ANTIMONY~Y-2&&-2*3*4wALKALI%-2wMARCASITEwSAL-AMMONIACwARSENICwREALGAR&-2wAU
  RIPIGMENTwBISMUTH_OREwTARTAR%-2wQUICK_LIMEwBORAX$-2%3wALUMwOILwSPIRITwTINCTUREwGUMwWAXwPOWDERwCA
  LXwTUTTYwCAPUT_MORTUUMwSCEPTER_OF_JOVEwCADUCEUSwTRIDENTwSTARRED_TRIDENTwLODESTONEwSOAPwURINEwHOR
  SE_DUNGwASHESwPOT_ASHESwBRICKwPOWDERED_BRICKwAMALGAMwSTRATUM_SUPER_STRATUM~TUM-2xUBLIMATIONwPREC
  IPITATEwDISTILLzSOLVE*-2wPURIFYyTREFACTIONwCRUCIBLE*-2+3+4+5wALEMBICwBATH_OF_MARY*VAPOURSwRETORT
  wHOURwNIGHTwDAY-NIGHTwMONTHwHALF_DRAM$OUNCE=1F780aBLACK_LEFT-POINTING_ISOSCELES_RIGHT_TRIANGLEgU
  P-POINTING_ISOSCELES_RIGHT_TRIANGLEgRIGHT-POINTING_ISOSCELES_RIGHT_TRIANGLEgDOWN-POINTING_ISOSCE
  LES_RIGHT_TRIANGLEgSLIGHTLY_)_CIRCLEaMEDIUM_BOLD_WHITE_CIRCLEaBOLD_WHITE_CIRCLEaHEAVY_WHITE_CIRC
  LEaVERY_HEAVY_WHITE_CIRCLEaEXTREMELY_HEAVY_WHITE_CIRCLEaWHITE_CIRCLE_CONTAINING_BLACK_)_CIRCLEaR
  OUND_TARGETaBLACK_TINY_SQUAREgSLIGHTLY_)_SQUAREaLIGHT_WHITE_SQUAREaMEDIUM_WHITE_SQUAREaBOLD_WHIT
  E_SQUAREaHEAVY_WHITE_SQUAREaVERY_HEAVY_WHITE_SQUAREaEXTREMELY_HEAVY_WHITE_SQUAREaWHITE_SQUARE_CO
  NTAINING_BLACK_VERY_)_SQUARE*MEDIUM_SQUAREaSQUARE_TARGETaBLACK_TINY_DIAMONDgVERY_)_DIAMONDgMEDIU
  M_)_DIAMONDaWHITE_DIAMOND_CONTAINING_BLACK_VERY_)_DIAMOND+MEDIUM_DIAMONDaDIAMOND_TARGETaBLACK_TI
  NY_LOZENGEgVERY_)_LOZENGEgMEDIUM_)_LOZENGEaWHITE_LOZENGE_CONTAINING_BLACK_)_LOZENGEaTHIN_GREEK_C
  ROSSaLIGHT_GREEK_CROSSaMEDIUM_GREEK_CROSSaBOLD_GREEK_CROSSaVERY_BOLD_GREEK_CROSSfHEAVY_GREEK_CRO
  SSaEXTREMELY_HEAVY_GREEK_CROSSaTHIN_SALTIREaLIGHT_SALTIREaMEDIUM_SALTIREaBOLD_SALTIREaHEAVY_SALT
  IREaVERY_HEAVY_SALTIREaEXTREMELY_HEAVY_SALTIREaLIGHT_FIVE_SPOKED_ASTERISKaMEDIUM_FIVE_SPOKED_AST
  ERISKaBOLD_FIVE_SPOKED_ASTERISKaHEAVY_FIVE_SPOKED_ASTERISKaVERY_HEAVY_FIVE_SPOKED_ASTERISKaEXTRE
  MELY_HEAVY_FIVE_SPOKED_ASTERISKaLIGHT_SIX_SPOKED_ASTERISKaMEDIUM_SIX_SPOKED_ASTERISKaBOLD_SIX_SP
  OKED_ASTERISKaHEAVY_SIX_SPOKED_ASTERISKaVERY_HEAVY_SIX_SPOKED_ASTERISKaEXTREMELY_HEAVY_SIX_SPOKE
  D_ASTERISKaLIGHT_EIGHT_SPOKED_ASTERISKaMEDIUM_EIGHT_SPOKED_ASTERISKaBOLD_EIGHT_SPOKED_ASTERISKaH
  EAVY_EIGHT_SPOKED_ASTERISKaVERY_HEAVY_EIGHT_SPOKED_ASTERISKaLIGHT_THREE_POINTED_BLACK_STARaMEDIU
  M_THREE_POINTED_BLACK_STARaTHREE_POINTED_BLACK_STARaMEDIUM_THREE_POINTED_PINWHEEL_STARaLIGHT_FOU
  R_POINTED_BLACK_STARaMEDIUM_FOUR_POINTED_BLACK_STARaFOUR_POINTED_BLACK_STARaMEDIUM_FOUR_POINTED_
  PINWHEEL_STARaREVERSE_LIGHT_FOUR_POINTED_PINWHEEL_STARaLIGHT_FIVE_POINTED_BLACK_STARaHEAVY_FIVE_
  POINTED_BLACK_STARaMEDIUM_SIX_POINTED_BLACK_STARaHEAVY_SIX_POINTED_BLACK_STARaSIX_POINTED_PINWHE
  EL_STARaMEDIUM_EIGHT_POINTED_BLACK_STARaHEAVY_EIGHT_POINTED_BLACK_STARaVERY_HEAVY_EIGHT_POINTED_
  BLACK_STARaHEAVY_EIGHT_POINTED_PINWHEEL_STARaLIGHT_TWELVE_POINTED_BLACK_STARaHEAVY_TWELVE_POINTE
  D_BLACK_STARvPINWHEEL_STARaCIRCLED_TRIANGLEaNEGATIVE_CIRCLED_TRIANGLEaCIRCLED_SQUAREaNEGATIVE_CI
  RCLED_SQUARE=1F7E0aLARGE_ORANGE_CIRCLEgYELLOW_CIRCLEgGREEN_CIRCLEgPURPLE_CIRCLEgBROWN_CIRCLEgRED
  _SQUAREgBLUE_SQUAREgORANGE_SQUAREgYELLOW_SQUAREgGREEN_SQUAREgPURPLE_SQUAREgBROWN_SQUARE=1F7F0aHE
  AVY_EQUALS_SIGN=1F800aLEFTWARDS[@)_TRIANGLE[HEADaUPWARDS[@)_TRIANGLE[HEADaRIGHTWARDS[@)_TRIANGLE
  [HEADaDOWNWARDS[@)_TRIANGLE[HEADaLEFTWARDS[@MEDIUM_TRIANGLE[HEADaUPWARDS[@MEDIUM_TRIANGLE[HEADaR
  IGHTWARDS[@MEDIUM_TRIANGLE[HEADaDOWNWARDS[@MEDIUM_TRIANGLE[HEADaLEFTWARDS[@LARGE_TRIANGLE[HEADaU
  PWARDS[@LARGE_TRIANGLE[HEADaRIGHTWARDS[@LARGE_TRIANGLE[HEADaDOWNWARDS[@LARGE_TRIANGLE[HEAD=1F810
  aLEFTWARDS[@)_EQUILATERAL[HEADaUPWARDS[@)_EQUILATERAL[HEADaRIGHTWARDS[@)_EQUILATERAL[HEADaDOWNWA
  RDS[@)_EQUILATERAL[HEADaLEFTWARDS[@EQUILATERAL[HEADaUPWARDS[@EQUILATERAL[HEADaRIGHTWARDS[@EQUILA
  TERAL[HEADaDOWNWARDS[@EQUILATERAL[HEADaHEAVY_LEFTWARDS[@EQUILATERAL[HEADgUPWARDS[@EQUILATERAL[HE
  ADgRIGHTWARDS[@EQUILATERAL[HEADgDOWNWARDS[@EQUILATERAL[HEADgLEFTWARDS[@LARGE_EQUILATERAL[HEADgUP
  WARDS[@LARGE_EQUILATERAL[HEADgRIGHTWARDS[@LARGE_EQUILATERAL[HEADgDOWNWARDS[@LARGE_EQUILATERAL[HE
  ADaLEFTWARDS_TRIANGLE-HEADED[@NARROW_SHAFTaUPWARDS_TRIANGLE-HEADED[@NARROW_SHAFTaRIGHTWARDS_TRIA
  NGLE-HEADED[@NARROW_SHAFTaDOWNWARDS_TRIANGLE-HEADED[@NARROW_SHAFTaLEFTWARDS_TRIANGLE-HEADED[@MED
  IUM_SHAFTaUPWARDS_TRIANGLE-HEADED[@MEDIUM_SHAFTaRIGHTWARDS_TRIANGLE-HEADED[@MEDIUM_SHAFTaDOWNWAR
  DS_TRIANGLE-HEADED[@MEDIUM_SHAFTaLEFTWARDS_TRIANGLE-HEADED[@BOLD_SHAFTaUPWARDS_TRIANGLE-HEADED[@
  BOLD_SHAFTaRIGHTWARDS_TRIANGLE-HEADED[@BOLD_SHAFTaDOWNWARDS_TRIANGLE-HEADED[@BOLD_SHAFTaLEFTWARD
  S_TRIANGLE-HEADED[@HEAVY_SHAFTaUPWARDS_TRIANGLE-HEADED[@HEAVY_SHAFTaRIGHTWARDS_TRIANGLE-HEADED[@
  HEAVY_SHAFTaDOWNWARDS_TRIANGLE-HEADED[@HEAVY_SHAFTaLEFTWARDS_TRIANGLE-HEADED[@VERY_HEAVY_SHAFTaU
  PWARDS_TRIANGLE-HEADED[@VERY_HEAVY_SHAFTaRIGHTWARDS_TRIANGLE-HEADED[@VERY_HEAVY_SHAFTaDOWNWARDS_
  TRIANGLE-HEADED[@VERY_HEAVY_SHAFTaLEFTWARDS_FINGER-POST[aUPWARDS_FINGER-POST[aRIGHTWARDS_FINGER-
  POST[aDOWNWARDS_FINGER-POST[aLEFTWARDS_SQUARED[aUPWARDS_SQUARED[aRIGHTWARDS_SQUARED[aDOWNWARDS_S
  QUARED[aLEFTWARDS_COMPRESSED[aUPWARDS_COMPRESSED[aRIGHTWARDS_COMPRESSED[aDOWNWARDS_COMPRESSED[aL
  EFTWARDS_HEAVY_COMPRESSED[aUPWARDS_HEAVY_COMPRESSED[aRIGHTWARDS_HEAVY_COMPRESSED[aDOWNWARDS_HEAV
  Y_COMPRESSED[aLEFTWARDS_HEAVY[aUPWARDS_HEAVY[aRIGHTWARDS_HEAVY[aDOWNWARDS_HEAVY[=1F850aLEFTWARDS
  _SANS-SERIF[aUPWARDS_SANS-SERIF[aRIGHTWARDS_SANS-SERIF[aDOWNWARDS_SANS-SERIF[aNORTH_WEST_SANS-SE
  RIF[gEAST_SANS-SERIF[aSOUTH_EAST_SANS-SERIF[gWEST_SANS-SERIF[aLEFT_RIGHT_SANS-SERIF[aUP_DOWN_SAN
  S-SERIF[=1F860aWIDE-HEADED_LEFTWARDS_LIGHT_BARB[mUPWARDS_LIGHT_BARB[mRIGHTWARDS_LIGHT_BARB[mDOWN
  WARDS_LIGHT_BARB[mNORTH_WEST_LIGHT_BARB[sEAST_LIGHT_BARB[mSOUTH_EAST_LIGHT_BARB[sWEST_LIGHT_BARB
  [mLEFTWARDS_BARB[mUPWARDS_BARB[mRIGHTWARDS_BARB[mDOWNWARDS_BARB[mNORTH_WEST_BARB[sEAST_BARB[mSOU
  TH_EAST_BARB[sWEST_BARB[mLEFTWARDS_MEDIUM_BARB[mUPWARDS_MEDIUM_BARB[mRIGHTWARDS_MEDIUM_BARB[mDOW
  NWARDS_MEDIUM_BARB[mNORTH_WEST_MEDIUM_BARB[sEAST_MEDIUM_BARB[mSOUTH_EAST_MEDIUM_BARB[sWEST_MEDIU
  M_BARB[mLEFTWARDS_HEAVY_BARB[mUPWARDS_HEAVY_BARB[mRIGHTWARDS_HEAVY_BARB[mDOWNWARDS_HEAVY_BARB[mN
  ORTH_WEST_HEAVY_BARB[sEAST_HEAVY_BARB[mSOUTH_EAST_HEAVY_BARB[sWEST_HEAVY_BARB[mLEFTWARDS_VERY_HE
  AVY_BARB[mUPWARDS_VERY_HEAVY_BARB[mRIGHTWARDS_VERY_HEAVY_BARB[mDOWNWARDS_VERY_HEAVY_BARB[mNORTH_
  WEST_VERY_HEAVY_BARB[sEAST_VERY_HEAVY_BARB[mSOUTH_EAST_VERY_HEAVY_BARB[sWEST_VERY_HEAVY_BARB[=1F
  890aLEFTWARDS_TRIANGLE[HEADaUPWARDS_TRIANGLE[HEADaRIGHTWARDS_TRIANGLE[HEADaDOWNWARDS_TRIANGLE[HE
  ADaLEFTWARDS_WHITE[_WITHIN_TRIANGLE[HEADaUPWARDS_WHITE[_WITHIN_TRIANGLE[HEADaRIGHTWARDS_WHITE[_W
  ITHIN_TRIANGLE[HEADaDOWNWARDS_WHITE[_WITHIN_TRIANGLE[HEADaLEFTWARDS[@NOTCHED_TAILaUPWARDS[@NOTCH
  ED_TAILaRIGHTWARDS[@NOTCHED_TAILaDOWNWARDS[@NOTCHED_TAILaHEAVY[_SHAFT_WIDTH_ONEyTWO_THIRDSyONE_H
  ALF%THIRDaLEFTWARDS_BOTTOM-SHADED_WHITE[aRIGHTWARDS_BOTTOM_SHADED_WHITE[aLEFTWARDS_TOP_SHADED_WH
  ITE[aRIGHTWARDS_TOP_SHADED_WHITE[aLEFTWARDS_LEFT-SHADED_WHITE[aRIGHTWARDS_RIGHT-SHADED_WHITE[aLE
  FTWARDS_RIGHT-SHADED_WHITE[aRIGHTWARDS_LEFT-SHADED_WHITE[aLEFTWARDS_BACK-TILTED_SHADOWED_WHITE[a
  RIGHTWARDS_BACK-TILTED_SHADOWED_WHITE[aLEFTWARDS_FRONT-TILTED_SHADOWED_WHITE[aRIGHTWARDS_FRONT-T
  ILTED_SHADOWED_WHITE[aWHITE[_SHAFT_WIDTH_ONEyTWO_THIRDS=1F8B0aARROW_POINTING_UPWARDS_THEN_NORTH_
  WESTpRIGHTWARDS_THEN_CURVING_SOUTH_WEST=1F900aCIRCLED_CROSS]EE@FOUR_DOTS!TWO_DOTSuaLEFT_HALF_CIR
  CLE@FOUR_DOTSwTHREE_DOTSxWO_DOTSwDOTqaDOWNWARD_FACING_HOOKqNOTCHED_HOOKqHOOK@DOTqNOTCHED_HOOK@DO
  TaPINCHED_FINGERSaWHITE_HEARTaBROWN_HEARTaPINCHING_HANDaZIPPER-MOUTH_FACEaMONEY-MOUTH_FACEaFACE@
  THERMOMETERaNERD_FACEaTHINKING_FACEaFACE@HEAD-BANDAGEaROBOT_FACEaHUGGING_FACEaSIGN_OF_THE_HORNSa
  CALL_ME_HANDaRAISED_BACK_OF_HANDaLEFT-FACING_FISTaRIGHT-FACING_FISTaHANDSHAKEe@INDEX/MIDDLE_FING
  ERS_CROSSEDaI_LOVE_YOU_HAND_SIGNaFACE@COWBOY_HATaCLOWN_FACEaNAUSEATED_FACEaROLLING_ON_THE_FLOOR_
  LAUGHINGaDROOLING_FACEaLYING_FACEaFACE_PALMaSNEEZING_FACEaFACE@ONE_EYEBROW_RAISEDaGRINNING_FACE@
  STAR_EYEStONE_LARGE/ONE_)_EYEaFACE@FINGER_COVERING_CLOSED_LIPSaSERIOUS_FACE@SYMBOLS_COVERING_MOU
  THbMILING_FACE@SMILING_EYES/HAND_COVERING_MOUTHaFACE@OPEN_MOUTH_VOMITINGaSHOCKED_FACE@EXPLODING_
  HEADaPREGNANT_WOMANaBREAST-FEEDINGaPALMS_UP_TOGETHERaSELFIEaPRINCEaMAN_IN_TUXEDObOTHER_CHRISTMAS
  aSHRUGaPERSON_DOING_CARTWHEELaJUGGLINGaFENCERaMODERN_PENTATHLONaWRESTLERSbATER_POLOaHANDBALLaDIV
  ING_MASKaWILTED_FLOWERaDRUM@DRUMSTICKSaCLINKING_GLASSESaTUMBLER_GLASSaSPOONaGOAL_NETaRIFLEaFIRST
  _PLACE_MEDALaSECOND_PLACE_MEDALaTHIRD_PLACE_MEDALaBOXING_GLOVEaMARTIAL_ARTS_UNIFORMaCURLING_STON
  EaLACROSSE_STICK/BALLaSOFTBALLaFLYING_DISCaCROISSANTaAVOCADOaCUCUMBERaBACONaPOTATOaCARROTaBAGUET
  TE_BREADaGREEN_SALADaSHALLOW_PAN_OF_FOODbTUFFED_FLATBREADaEGGaGLASS_OF_MILKaPEANUTSaKIWIFRUITaPA
  NCAKESaDUMPLINGaFORTUNE_COOKIEaTAKEOUT_BOXaCHOPSTICKSaBOWL@SPOONaCUP@STRAWbOCONUTaBROCCOLIaPIEbR
  ETZELaCUT_OF_MEATaSANDWICHaCANNED_FOODaLEAFY_GREENaMANGObOON_CAKEaBAGELaSMILING_FACE@SMILING_EYE
  S/THREE_HEARTSaYAWNING_FACEaSMILING_FACE@TEARaFACE@PARTY_HORN/PARTY_HATkUNEVEN_EYES/WAVY_MOUTHaO
  VERHEATED_FACEaFREEZING_FACEaNINJAaDISGUISED_FACEaFACE_HOLDING_BACK_TEARSfWITH_PLEADING_EYESaSAR
  IaLAB_COATaGOGGLESaHIKING_BOOTaFLAT_SHOEaCRABaLION_FACEaSCORPIONaTURKEYaUNICORN_FACEaEAGLEaDUCKa
  BATaSHARKaOWLaFOX_FACEaBUTTERFLYaDEERaGORILLAaLIZARDaRHINOCEROSaSHRIMPbQUIDaGIRAFFE_FACEaZEBRA_F
  ACEaHEDGEHOGaSAUROPODaT-REXaCRICKETaKANGAROOaLLAMAaPEACOCKaHIPPOPOTAMUSaPARROTaRACCOONaLOBSTERaM
  OSQUITObICROBEaBADGERaSWANaMAMMOTHaDODOaSLOTHaOTTERbRANGUTANaSKUNKaFLAMINGOaOYSTERaBEAVERbISONaS
  EALaGUIDE_DOGaPROBING_CANEaEMOJI_COMPONENT_RED_HAIRqCURLY_HAIRqBALDqWHITE_HAIRaBONEaLEGaFOOTaTOO
  THaSUPERHEROfVILLAINbAFETY_VESTaEAR@HEARING_AIDaMOTORIZED_WHEELCHAIRbANUAL_WHEELCHAIRbECHANICAL_
  ARMlLEGaCHEESE_WEDGEbUPCAKEaSALT_SHAKERaBEVERAGE_BOXaGARLICaONIONaFALAFELaWAFFLEaBUTTERaMATE_DRI
  NKaICE_CUBEaBUBBLE_TEAaTROLLaSTANDING_PERSONaKNEELING_PERSONaDEAF_PERSONaFACE@MONOCLEaADULTaCHIL
  DaOLDER_ADULTaBEARDED_PERSONaPERSON@HEADSCARFhIN_STEAMY_ROOMhCLIMBINGhIN_LOTUS_POSITIONaMAGEaFAI
  RYaVAMPIREaMERPERSONaELFaGENIEaZOMBIEaBRAINaORANGE_HEARTaBILLED_CAPaSCARFaGLOVESaCOATaSOCKSaRED_
  GIFT_ENVELOPEaFIRECRACKERaJIGSAW_PUZZLE_PIECEaTEST_TUBEaPETRI_DISHaDNA_DOUBLE_HELIXaCOMPASSaABAC
  USaFIRE_EXTINGUISHERaTOOLBOXaBRICKaMAGNETaLUGGAGEbOTION_BOTTLEaSPOOL_OF_THREADaBALL_OF_YARNaSAFE
  TY_PINaTEDDY_BEARaBROOMbASKETaROLL_OF_PAPERaBAR_OF_SOAPaSPONGEaRECEIPTaNAZAR_AMULETbEUTRAL_CHESS
  _KINGoQUEENoROOKoBISHOPoKNIGHToPAWNaWHITE_CHESS_KNIGHT_ROTATED_FORTY-FIVE_DEGREESaBLACK_CHESS_KN
  IGHT_ROTATED_FORTY-FIVE_DEGREESaNEUTRAL_CHESS_KNIGHT_ROTATED_FORTY-FIVE_DEGREESaWHITE_CHESS_KING
  _ROTATED_NINETY_DEGREESmQUEEN_ROTATED_NINETY_DEGREESmROOK_ROTATED_NINETY_DEGREESmBISHOP_ROTATED_
  NINETY_DEGREESmKNIGHT_ROTATED_NINETY_DEGREESmPAWN_ROTATED_NINETY_DEGREESaBLACK_CHESS_KING_ROTATE
  D_NINETY_DEGREESmQUEEN_ROTATED_NINETY_DEGREESmROOK_ROTATED_NINETY_DEGREESmBISHOP_ROTATED_NINETY_
  DEGREESmKNIGHT_ROTATED_NINETY_DEGREESmPAWN_ROTATED_NINETY_DEGREESaNEUTRAL_CHESS_KING_ROTATED_NIN
  ETY_DEGREESoQUEEN_ROTATED_NINETY_DEGREESoROOK_ROTATED_NINETY_DEGREESoBISHOP_ROTATED_NINETY_DEGRE
  ESoKNIGHT_ROTATED_NINETY_DEGREESoPAWN_ROTATED_NINETY_DEGREESaWHITE_CHESS_KNIGHT_ROTATED_ONE_HUND
  RED_THIRTY-FIVE_DEGREESaBLACK_CHESS_KNIGHT_ROTATED_ONE_HUNDRED_THIRTY-FIVE_DEGREESaNEUTRAL_CHESS
  _KNIGHT_ROTATED_ONE_HUNDRED_THIRTY-FIVE_DEGREESaWHITE_CHESS_TURNED_KINGtQUEENtROOKtBISHOPtKNIGHT
  tPAWNaBLACK_CHESS_TURNED_KINGtQUEENtROOKtBISHOPtKNIGHTtPAWNaNEUTRAL_CHESS_TURNED_KINGvQUEENvROOK
  vBISHOPvKNIGHTvPAWNaWHITE_CHESS_KNIGHT_ROTATED_TWO_HUNDRED_TWENTY-FIVE_DEGREESaBLACK_CHESS_KNIGH
  T_ROTATED_TWO_HUNDRED_TWENTY-FIVE_DEGREESaNEUTRAL_CHESS_KNIGHT_ROTATED_TWO_HUNDRED_TWENTY-FIVE_D
  EGREESaWHITE_CHESS_KING_ROTATED_TWO_HUNDRED_SEVENTY_DEGREESmQUEEN_ROTATED_TWO_HUNDRED_SEVENTY_DE
  GREESmROOK_ROTATED_TWO_HUNDRED_SEVENTY_DEGREESmBISHOP_ROTATED_TWO_HUNDRED_SEVENTY_DEGREESmKNIGHT
  _ROTATED_TWO_HUNDRED_SEVENTY_DEGREESmPAWN_ROTATED_TWO_HUNDRED_SEVENTY_DEGREESaBLACK_CHESS_KING_R
  OTATED_TWO_HUNDRED_SEVENTY_DEGREESmQUEEN_ROTATED_TWO_HUNDRED_SEVENTY_DEGREESmROOK_ROTATED_TWO_HU
  NDRED_SEVENTY_DEGREESmBISHOP_ROTATED_TWO_HUNDRED_SEVENTY_DEGREESmKNIGHT_ROTATED_TWO_HUNDRED_SEVE
  NTY_DEGREESmPAWN_ROTATED_TWO_HUNDRED_SEVENTY_DEGREESaNEUTRAL_CHESS_KING_ROTATED_TWO_HUNDRED_SEVE
  NTY_DEGREESoQUEEN_ROTATED_TWO_HUNDRED_SEVENTY_DEGREESoROOK_ROTATED_TWO_HUNDRED_SEVENTY_DEGREESoB
  ISHOP_ROTATED_TWO_HUNDRED_SEVENTY_DEGREESoKNIGHT_ROTATED_TWO_HUNDRED_SEVENTY_DEGREESoPAWN_ROTATE
  D_TWO_HUNDRED_SEVENTY_DEGREESaWHITE_CHESS_KNIGHT_ROTATED_THREE_HUNDRED_FIFTEEN_DEGREESaBLACK_CHE
  SS_KNIGHT_ROTATED_THREE_HUNDRED_FIFTEEN_DEGREESaNEUTRAL_CHESS_KNIGHT_ROTATED_THREE_HUNDRED_FIFTE
  EN_DEGREESaWHITE_CHESS_EQUIHOPPERaBLACK_CHESS_EQUIHOPPERaNEUTRAL_CHESS_EQUIHOPPERaWHITE_CHESS_EQ
  UIHOPPER_ROTATED_NINETY_DEGREESaBLACK_CHESS_EQUIHOPPER_ROTATED_NINETY_DEGREESaNEUTRAL_CHESS_EQUI
  HOPPER_ROTATED_NINETY_DEGREESaWHITE_CHESS_KNIGHT-QUEENtROOKtBISHOPaBLACK_CHESS_KNIGHT-QUEENtROOK
  tBISHOP=1FA60aXIANGQI_RED_GENERALmMANDARINmELEPHANTmHORSEmCHARIOTnANNONmSOLDIERiBLACK_GENERALoMA
  NDARINoELEPHANToHORSEoCHARIOTpANNONoSOLDIER=1FA70aBALLET_SHOESaONE-PIECE_SWIMSUITaBRIEFSaSHORTSa
  THONG_SANDAL=1FA78aDROP_OF_BLOODaADHESIVE_BANDAGEaSTETHOSCOPEaX-RAYaCRUTCH=1FA80aYO-YOaKITEaPARA
  CHUTEaBOOMERANGaMAGIC_WANDaPINATAaNESTING_DOLLS=1FA90aRINGED_PLANETaCHAIRaRAZORaAXEaDIYA_LAMPaBA
  NJOaMILITARY_HELMETaACCORDIONaLONG_DRUMaCOINbARPENTRY_SAWaSCREWDRIVERaLADDERaHOOKaMIRRORaWINDOWa
  PLUNGERaSEWING_NEEDLEaKNOTaBUCKETaMOUSE_TRAPaTOOTHBRUSHaHEADSTONEaPLACARDaROCKaMIRROR_BALLaIDENT
  IFICATION_CARDaLOW_BATTERYaHAMSA=1FAB0aFLYaWORMaBEETLEaCOCKROACHaPOTTED_PLANTaWOODaFEATHERaLOTUS
  aCORALaEMPTY_NESTaNEST@EGGS=1FAC0aANATOMICAL_HEARTaLUNGSaPEOPLE_HUGGINGbREGNANT_MANjPERSONbERSON
  @CROWN=1FAD0aBLUEBERRIESbELL_PEPPERaOLIVEaFLATBREADaTAMALEaFONDUEaTEAPOTaPOURING_LIQUIDaBEANSaJA
  R=1FAE0aMELTING_FACEaSALUTING_FACEaFACE@OPEN_EYES/HAND_OVER_MOUTHkPEEKING_EYEkDIAGONAL_MOUTHaDOT
  TED_LINE_FACEaBITING_LIPbUBBLES=1FAF0aHAND@INDEX_FINGER/THUMB_CROSSEDaRIGHTWARDS_HANDaLEFTWARDS_
  HANDaPALM_DOWN_HANDfUP_HANDaINDEX_POINTING_AT_THE_VIEWERaHEART_HANDS=1FB00aBLOCK_SEXTANT-1o2o12o
  3o13o23o123o4o14o24o124o34o134o234o1234o5o15o25o125o35o235o1235o45o145o245o1245o345o1345o2345o12
  345o6o16o26o126o36o136o236o1236o46o146p246o346o1346o2346o12346o56o156o256o1256o356o1356o2356o123
  56o456o1456o2456o12456o3456o13456o23456aLOWER_LEFT_BLOCK_DIAGONAL_LOWER_MIDDLE_LEFT_TO_LOWER_CEN
  TRE~EFT_TO_LOWER_RIGHT!UPPER_MIDDLE_LEFT_TO_LOWER_CENTRE~EFT_TO_LOWER_RIGHT,LEFT_TO_LOWER_CENTRE
  gRIGHT_BLOCK_DIAGONAL_UPPER_MIDDLE_LEFT_TO_UPPER_CENTRE~LEFT_TO_UPPER_RIGHT$LOWER_MIDDLE_LEFT_TO
  _UPPER_CENTRE~LEFT_TO_UPPER_RIGHT.LEFT_TO_UPPER_CENTRE.MIDDLE_LEFT_TO_UPPER_MIDDLE_RIGHT.CENTRE_
  TO_LOWER_MIDDLE_RIGHT.LEFT_TO_LOWER_MIDDLE_RIGHT.CENTRE_TO_UPPER_MIDDLE_RIGHT.LEFT_TO_UPPER_MIDD
  LE_RIGHT.CENTRE_TO_UPPER_RIGHTgLEFT_BLOCK_DIAGONAL_UPPER_CENTRE_TO_UPPER_MIDDLE_RIGHT,LEFT_TO_UP
  PER_MIDDLE_RIGHT,CENTRE_TO_LOWER_MIDDLE_RIGHT,LEFT_TO_LOWER_MIDDLE_RIGHT,CENTRE_TO_LOWER_RIGHT,M
  IDDLE_LEFT_TO_LOWER_MIDDLE_RIGHTaUPPER_RIGHT_BLOCK_DIAGONAL_LOWER_MIDDLE_LEFT_TO_LOWER_CENTRE~LE
  FT_TO_LOWER_RIGHT$UPPER_MIDDLE_LEFT_TO_LOWER_CENTRE~LEFT_TO_LOWER_RIGHT.LEFT_TO_LOWER_CENTREgLEF
  T_BLOCK_DIAGONAL_UPPER_MIDDLE_LEFT_TO_UPPER_CENTRE~EFT_TO_UPPER_RIGHT!LOWER_MIDDLE_LEFT_TO_UPPER
  _CENTRE~EFT_TO_UPPER_RIGHT,LEFT_TO_UPPER_CENTRE,MIDDLE_LEFT_TO_UPPER_MIDDLE_RIGHT,CENTRE_TO_LOWE
  R_MIDDLE_RIGHT,LEFT_TO_LOWER_MIDDLE_RIGHT,CENTRE_TO_UPPER_MIDDLE_RIGHT,LEFT_TO_UPPER_MIDDLE_RIGH
  T,CENTRE_TO_UPPER_RIGHTgRIGHT_BLOCK_DIAGONAL_UPPER_CENTRE_TO_UPPER_MIDDLE_RIGHT.LEFT_TO_UPPER_MI
  DDLE_RIGHT.CENTRE_TO_LOWER_MIDDLE_RIGHT.LEFT_TO_LOWER_MIDDLE_RIGHT.CENTRE_TO_LOWER_RIGHT.MIDDLE_
  LEFT_TO_LOWER_MIDDLE_RIGHTgAND_RIGHT/LOWER_TRIANGULAR_THREE_QUARTERS_BLOCKaLEFT/LOWER/RIGHT_TRIA
  NGULAR_THREE_QUARTERS_BLOCKaUPPER/LEFT/LOWER_TRIANGULAR_THREE_QUARTERS_BLOCKaLEFT/UPPER/RIGHT_TR
  IANGULAR_THREE_QUARTERS_BLOCKfTRIANGULAR_ONE_QUARTER_BLOCKaUPPER_TRIANGULAR_ONE_QUARTER_BLOCKaRI
  GHT_TRIANGULAR_ONE_QUARTER_BLOCKaLOWER_TRIANGULAR_ONE_QUARTER_BLOCKaVERTICAL_ONE_EIGHTH_BLOCK-2!
  3!4!5!6!7aHORIZONTAL_ONE_EIGHTH_BLOCK-2%3%4%5%6%7aLEFT/LOWER_ONE_EIGHTH_BLOCKjUPPER_ONE_EIGHTH_B
  LOCKaRIGHT/UPPER_ONE_EIGHTH_BLOCKkLOWER_ONE_EIGHTH_BLOCKaUPPER/LOWER_ONE_EIGHTH_BLOCKaHORIZONTAL
  _ONE_EIGHTH_BLOCK-1358aUPPER_ONE_QUARTER_BLOCKgTHREE_EIGHTHS_BLOCKgFIVE_EIGHTHS_BLOCKgTHREE_QUAR
  TERS_BLOCKgSEVEN_EIGHTHS_BLOCKaRIGHT_ONE_QUARTER_BLOCKgTHREE_EIGHTHS_BLOCKgFIVE_EIGHTHS_BLOCKgTH
  REE_QUARTERS_BLOCKgSEVEN_EIGHTHS_BLOCKaLEFT_HALF_MEDIUM_SHADEaRIGHT_HALF_MEDIUM_SHADEaUPPER_HALF
  _MEDIUM_SHADEaLOWER_HALF_MEDIUM_SHADEaINVERSE_MEDIUM_SHADEaUPPER_HALF_BLOCK/LOWER_HALF_INVERSE_M
  EDIUM_SHADElINVERSE_MEDIUM_SHADE/LOWER_HALF_BLOCK=1FB94aLEFT_HALF_INVERSE_MEDIUM_SHADE/RIGHT_HAL
  F_BLOCKaCHECKER_BOARD_FILLaINVERSE_CHECKER_BOARD_FILLaHEAVY_HORIZONTAL_FILLaUPPER_LEFT_TO_LOWER_
  RIGHT_FILLgRIGHT_TO_LOWER_LEFT_FILLgAND_LOWER_TRIANGULAR_HALF_BLOCKaLEFT/RIGHT_TRIANGULAR_HALF_B
  LOCKaUPPER_LEFT_TRIANGULAR_MEDIUM_SHADEgRIGHT_TRIANGULAR_MEDIUM_SHADEaLOWER_RIGHT_TRIANGULAR_MED
  IUM_SHADEgLEFT_TRIANGULAR_MEDIUM_SHADEaBOX_DRAWINGS_LIGHT_DIAGONAL_UPPER_CENTRE_TO_MIDDLE_LEFT~_
  TO_MIDDLE_RIGHT%MIDDLE_LEFT_TO_LOWER_CENTRE<RIGHT_TO_LOWER_CENTRE%UPPER_CENTRE_TO_MIDDLE_LEFT_TO
  _LOWER_CENTRE~_TO_MIDDLE_RIGHT_TO_LOWER_CENTRE%MIDDLE_LEFT_TO_LOWER_CENTRE_TO_MIDDLE_RIGHT~TO_UP
  PER_CENTRE_TO_MIDDLE_RIGHT%UPPER_CENTRE_TO_MIDDLE_LEFT/MIDDLE_RIGHT_TO_LOWER_CENTRE~_TO_MIDDLE_R
  IGHT/MIDDLE_LEFT_TO_LOWER_CENTRE~_TO_MIDDLE_RIGHT_TO_LOWER_CENTRE_TO_MIDDLE_LEFT~_TO_MIDDLE_LEFT
  _TO_LOWER_CENTRE_TO_MIDDLE_RIGHT%MIDDLE_LEFT_TO_UPPER_CENTRE_TO_MIDDLE_RIGHT_TO_LOWER_CENTRE<RIG
  HT_TO_UPPER_CENTRE_TO_MIDDLE_LEFT_TO_LOWER_CENTRE%DIAMONDtHORIZONTAL@VERTICAL_STROKEaARROWHEAD-S
  HAPED_POINTERaINVERSE_CHECK_MARKaLEFT_HALF_RUNNING_MANaRIGHT_HALF_RUNNING_MANaINVERSE_DOWNWARDS[
  @TIP_LEFTWARDSaLEFTWARDS[/UPPER/LOWER_ONE_EIGHTH_BLOCKaRIGHTWARDS[/UPPER/LOWER_ONE_EIGHTH_BLOCKa
  DOWNWARDS[/RIGHT_ONE_EIGHTH_BLOCKaUPWARDS[/RIGHT_ONE_EIGHTH_BLOCKaLEFT_HALF_FOLDERaRIGHT_HALF_FO
  LDERaVOIDED_GREEK_CROSSaRIGHT_OPEN_SQUARED_DOTaNEGATIVE_DIAGONAL_CROSSsMIDDLE_RIGHT_TO_LOWER_CEN
  TREsDIAMONDaWHITE_HEAVY_SALTIRE@ROUNDED_CORNERSaLEFT_THIRD_WHITE_RIGHT_POINTING_INDEXaMIDDLE_THI
  RD_WHITE_RIGHT_POINTING_INDEXaRIGHT_THIRD_WHITE_RIGHT_POINTING_INDEXaNEGATIVE_SQUARED_QUESTION_M
  ARKaSTICK_FIGUREm@ARMS_RAISEDnLEANING_LEFTvRIGHTnWITH_DRESSaWHITE_UP-POINTING_CHEVRON=1FBF0aSEGM
  ENTED_DIGIT_ZEROqONEqTWOrHREEqFOURrIVEqSIXrEVENqEIGHTqNINE=E0001aLANGUAGE_TAG=E0020aTAG_SPACEeEX
  CLAMATION_MARKeQUOTATION_MARKeNUMBER_SIGNeDOLLAR_SIGNePERCENT_SIGNeAMPERSANDfPOSTROPHEeLEFT_PARE
  NTHESISeRIGHT_PARENTHESISeASTERISKePLUS_SIGNeCOMMAeHYPHEN-MINUSeFULL_STOPeSOLIDUSeDIGIT_ZEROkONE
  kTWOlHREEkFOURlIVEkSIXlEVENkEIGHTkNINEeCOLONeSEMICOLONeLESS-THAN_SIGNeEQUALS_SIGNeGREATER-THAN_S
  IGNeQUESTION_MARKeCOMMERCIAL_ATeLATIN_(:AzBzCzDzEzFzGzHzIzJzKzLzMzNzOzPzQzRzSzTzUzVzWzXzYzZfEFT_
  SQUARE_BRACKETeREVERSE_SOLIDUSfIGHT_SQUARE_BRACKETeCIRCUMFLEX_ACCENTeLOW_LINEeGRAVE_ACCENTeLATIN
  _):AxBxCxDxExFxGxHxIxJxKxLxMxNxOxPxQxRxSxTxUxVxWxXxYxZfEFT_CURLY_BRACKETeVERTICAL_LINEeRIGHT_CUR
  LY_BRACKETeTILDEaCANCEL_TAG=E0100aVARIATION_SELECTOR-17u8u9t20u1u2u3u4u5u6u7u8u9t30u1u2u3u4u5u6u
  7u8u9t40u1u2u3u4u5u6u7u8u9t50u1u2u3u4u5u6u7u8u9t60u1u2u3u4u5u6u7u8u9t70u1u2u3u4u5u6u7u8u9t80u1u2
  u3u4u5u6u7u8u9t90u1u2u3u4u5u6u7u8u9t100v1v2v3v4v5v6v7v8v9u10v1v2v3v4v5v6v7v8v9u20v1v2v3v4v5v6v7v
  8v9u30v1v2v3v4v5v6v7v8v9u40v1v2v3v4v5v6v7v8v9u50v1v2v3v4v5v6v7v8v9u60v1v2v3v4v5v6v7v8v9u70v1v2v3
  v4v5v6v7v8v9u80v1v2v3v4v5v6v7v8v9u90v1v2v3v4v5v6v7v8v9t200v1v2v3v4v5v6v7v8v9u10v1v2v3v4v5v6v7v8v
  9u20v1v2v3v4v5v6v7v8v9u30v1v2v3v4v5v6v7v8v9u40v1v2v3v4v5v6v7v8v9u50v1v2v3v4v5v6"

end BpfCompiler.Text.Name
