/-!
# Names: alphabets

The names of letters and signs of the alphabets up to `U+1FFF`.
-/

namespace BpfCompiler.Text.Name

def alphabets : String := "
  =20aSPACEaEXCLAMATION_MARKaQUOTATION_MARKaNUMBER_SIGNaDOLLAR_SIGNaPERCENT_SIGNaAMPERSANDbPOSTROP
  HEaLEFT_PARENTHESISaRIGHT_PARENTHESISaASTERISKaPLUS_SIGNaCOMMAaHYPHEN-MINUSaFULL_STOPaSOLIDUSaDI
  GIT_ZEROgONEgTWOhHREEgFOURhIVEgSIXhEVENgEIGHTgNINEaCOLONaSEMICOLONaLESS-THAN_SIGNaEQUALS_SIGNaGR
  EATER-THAN_SIGNaQUESTION_MARKaCOMMERCIAL_ATaLATIN_(:AvBvCvDvEvFvGvHvIvJvKvLvMvNvOvPvQvRvSvTvUvVv
  WvXvYvZbEFT_SQUARE_BRACKETaREVERSE_SOLIDUSbIGHT_SQUARE_BRACKETaCIRCUMFLEX_ACCENTaLOW_LINEaGRAVE_
  ACCENTaLATIN_):AtBtCtDtEtFtGtHtItJtKtLtMtNtOtPtQtRtStTtUtVtWtXtYtZbEFT_CURLY_BRACKETaVERTICAL_LI
  NEaRIGHT_CURLY_BRACKETaTILDE=A0aNO-BREAK_SPACEaINVERTED_EXCLAMATION_MARKaCENT_SIGNaPOUND_SIGNaCU
  RRENCY_SIGNaYEN_SIGNaBROKEN_BARaSECTION_SIGNaDIAERESISaCOPYRIGHT_SIGNaFEMININE_ORDINAL_INDICATOR
  aLEFT-POINTING_DOUBLE_ANGLE_QUOTATION_MARKaNOT_SIGNaSOFT_HYPHENaREGISTERED_SIGNaMACRONaDEGREE_SI
  GNaPLUS-MINUS_SIGNaSUPERSCRIPT_TWOnHREEaACUTE_ACCENTaMICRO_SIGNaPILCROW_SIGNaMIDDLE_DOTaCEDILLAa
  SUPERSCRIPT_ONEaMASCULINE_ORDINAL_INDICATORaRIGHT-POINTING_DOUBLE_ANGLE_QUOTATION_MARKaVULGAR_FR
  ACTION_ONE_QUARTERuHALFqTHREE_QUARTERSaINVERTED_QUESTION_MARKaLATIN_(:A@GRAVE%ACUTE%CIRCUMFLEX%T
  ILDE%DIAERESIS%RING_ABOVEwEvC@CEDILLAvE@GRAVE%ACUTE%CIRCUMFLEX%DIAERESISvI@GRAVE%ACUTE%CIRCUMFLE
  X%DIAERESISvETHvN@TILDEvO@GRAVE%ACUTE%CIRCUMFLEX%TILDE%DIAERESISaMULTIPLICATION_SIGNaLATIN_(:O@S
  TROKEvU@GRAVE%ACUTE%CIRCUMFLEX%DIAERESISvY@ACUTEvTHORNg):SHARP_StA@GRAVE!ACUTE!CIRCUMFLEX!TILDE!
  DIAERESIS!RING_ABOVEuEtC@CEDILLAtE@GRAVE!ACUTE!CIRCUMFLEX!DIAERESIStI@GRAVE!ACUTE!CIRCUMFLEX!DIA
  ERESIStETHtN@TILDEtO@GRAVE!ACUTE!CIRCUMFLEX!TILDE!DIAERESISaDIVISION_SIGNaLATIN_):O@STROKEtU@GRA
  VE!ACUTE!CIRCUMFLEX!DIAERESIStY@ACUTEtTHORNtY@DIAERESISg(:A@MACRONg):A@MACRONg(:A@BREVEg):A@BREV
  Eg(:A@OGONEKg):A@OGONEKg(:C@ACUTEg):C@ACUTEg(:C@CIRCUMFLEXg):C@CIRCUMFLEXg(:C@DOT_ABOVEg):C@DOT_
  ABOVEg(:C@CARONg):C@CARONg(:D@CARONg):D@CARONg(:D@STROKEg):D@STROKEg(:E@MACRONg):E@MACRONg(:E@BR
  EVEg):E@BREVEg(:E@DOT_ABOVEg):E@DOT_ABOVEg(:E@OGONEKg):E@OGONEKg(:E@CARONg):E@CARONg(:G@CIRCUMFL
  EXg):G@CIRCUMFLEXg(:G@BREVEg):G@BREVEg(:G@DOT_ABOVEg):G@DOT_ABOVEg(:G@CEDILLAg):G@CEDILLAg(:H@CI
  RCUMFLEXg):H@CIRCUMFLEXg(:H@STROKEg):H@STROKEg(:I@TILDEg):I@TILDEg(:I@MACRONg):I@MACRONg(:I@BREV
  Eg):I@BREVEg(:I@OGONEKg):I@OGONEKg(:I@DOT_ABOVEg):DOTLESS_Ig(_LIGATURE_IJg)_LIGATURE_IJg(:J@CIRC
  UMFLEXg):J@CIRCUMFLEXg(:K@CEDILLAg):K@CEDILLAuRAg(:L@ACUTEg):L@ACUTEg(:L@CEDILLAg):L@CEDILLAg(:L
  @CARONg):L@CARONg(:L@MIDDLE_DOTg):L@MIDDLE_DOTg(:L@STROKEg):L@STROKEg(:N@ACUTEg):N@ACUTEg(:N@CED
  ILLAg):N@CEDILLAg(:N@CARONg):N@CARONvPRECEDED_BY_APOSTROPHEg(:ENGg):ENGg(:O@MACRONg):O@MACRONg(:
  O@BREVEg):O@BREVEg(:O@DOUBLE_ACUTEg):O@DOUBLE_ACUTEg(_LIGATURE_OEg)_LIGATURE_OEg(:R@ACUTEg):R@AC
  UTEg(:R@CEDILLAg):R@CEDILLAg(:R@CARONg):R@CARONg(:S@ACUTEg):S@ACUTEg(:S@CIRCUMFLEXg):S@CIRCUMFLE
  Xg(:S@CEDILLAg):S@CEDILLAg(:S@CARONg):S@CARONg(:T@CEDILLAg):T@CEDILLAg(:T@CARONg):T@CARONg(:T@ST
  ROKEg):T@STROKEg(:U@TILDEg):U@TILDEg(:U@MACRONg):U@MACRONg(:U@BREVEg):U@BREVEg(:U@RING_ABOVEg):U
  @RING_ABOVEg(:U@DOUBLE_ACUTEg):U@DOUBLE_ACUTEg(:U@OGONEKg):U@OGONEKg(:W@CIRCUMFLEXg):W@CIRCUMFLE
  Xg(:Y@CIRCUMFLEXg):Y@CIRCUMFLEXg(:Y@DIAERESISvZ@ACUTEg):Z@ACUTEg(:Z@DOT_ABOVEg):Z@DOT_ABOVEg(:Z@
  CARONg):Z@CARONtLONG_StB@STROKEg(:B@HOOK%TOPBARg):B@TOPBARg(:TONE_SIXg):TONE_SIXg(:OPEN_OvC@HOOK
  g):C@HOOKg(:AFRICAN_DvD@HOOK%TOPBARg):D@TOPBARtTURNED_DELTAg(:REVERSED_EvSCHWAvOPEN_EvF@HOOKg):F
  @HOOKg(:G@HOOKwAMMAg):HVg(:IOTAw@STROKEvK@HOOKg):K@HOOKtL@BARuAMBDA@STROKEg(:TURNED_MvN@LEFT_HOO
  Kg):N@LONG_RIGHT_LEGg(:O@MIDDLE_TILDE%HORNg):O@HORNg(:OIg):OIg(:P@HOOKg):P@HOOKgLETTER_YRg(:TONE
  _TWOg):TONE_TWOg(:ESHgLETTER_REVERSED_ESH_LOOPg):T@PALATAL_HOOKg(:T@HOOKg):T@HOOKg(:T@RETROFLEX_
  HOOKvU@HORNg):U@HORNg(:UPSILONvV@HOOKvY@HOOKg):Y@HOOKg(:Z@STROKEg):Z@STROKEg(:EZHy_REVERSEDg):EZ
  H_REVERSEDxWITH_TAILgLETTER_TWO@STROKEg(:TONE_FIVEg):TONE_FIVEgLETTER_INVERTED_GLOTTAL_STOP@STRO
  KEnWYNNnDENTAL_CLICKnLATERAL_CLICKnALVEOLAR_CLICKnRETROFLEX_CLICKg(:DZ@CARONw@):Z@CARONg):DZ@CAR
  ONg(:LJw@):Jg):LJg(:NJw@):Jg):NJg(:A@CARONg):A@CARONg(:I@CARONg):I@CARONg(:O@CARONg):O@CARONg(:U
  @CARONg):U@CARONg(:U@DIAERESIS/MACRONg):U@DIAERESIS/MACRONg(:U@DIAERESIS/ACUTEg):U@DIAERESIS/ACU
  TEg(:U@DIAERESIS/CARONg):U@DIAERESIS/CARONg(:U@DIAERESIS/GRAVEg):U@DIAERESIS/GRAVEtTURNED_Eg(:A@
  DIAERESIS/MACRONg):A@DIAERESIS/MACRONg(:A@DOT_ABOVE/MACRONg):A@DOT_ABOVE/MACRONg(:AE@MACRONg):AE
  @MACRONg(:G@STROKEg):G@STROKEg(:G@CARONg):G@CARONg(:K@CARONg):K@CARONg(:O@OGONEKg):O@OGONEKg(:O@
  OGONEK/MACRONg):O@OGONEK/MACRONg(:EZH@CARONg):EZH@CARONtJ@CARONg(:DZw@):Zg):DZg(:G@ACUTEg):G@ACU
  TEg(:HWAIRvWYNNvN@GRAVEg):N@GRAVEg(:A@RING_ABOVE/ACUTEg):A@RING_ABOVE/ACUTEg(:AE@ACUTEg):AE@ACUT
  Eg(:O@STROKE/ACUTEg):O@STROKE/ACUTEg(:A@DOUBLE_GRAVEg):A@DOUBLE_GRAVEg(:A@INVERTED_BREVEg):A@INV
  ERTED_BREVEg(:E@DOUBLE_GRAVEg):E@DOUBLE_GRAVEg(:E@INVERTED_BREVEg):E@INVERTED_BREVEg(:I@DOUBLE_G
  RAVEg):I@DOUBLE_GRAVEg(:I@INVERTED_BREVEg):I@INVERTED_BREVEg(:O@DOUBLE_GRAVEg):O@DOUBLE_GRAVEg(:
  O@INVERTED_BREVEg):O@INVERTED_BREVEg(:R@DOUBLE_GRAVEg):R@DOUBLE_GRAVEg(:R@INVERTED_BREVEg):R@INV
  ERTED_BREVEg(:U@DOUBLE_GRAVEg):U@DOUBLE_GRAVEg(:U@INVERTED_BREVEg):U@INVERTED_BREVEg(:S@COMMA_BE
  LOWg):S@COMMA_BELOWg(:T@COMMA_BELOWg):T@COMMA_BELOWg(:YOGHg):YOGHg(:H@CARONg):H@CARONg(:N@LONG_R
  IGHT_LEGg):D@CURLg(:OUg):OUg(:Z@HOOKg):Z@HOOKg(:A@DOT_ABOVEg):A@DOT_ABOVEg(:E@CEDILLAg):E@CEDILL
  Ag(:O@DIAERESIS/MACRONg):O@DIAERESIS/MACRONg(:O@TILDE/MACRONg):O@TILDE/MACRONg(:O@DOT_ABOVEg):O@
  DOT_ABOVEg(:O@DOT_ABOVE/MACRONg):O@DOT_ABOVE/MACRONg(:Y@MACRONg):Y@MACRONtL@CURLtN@CURLtT@CURLtD
  OTLESS_JuB_DIGRAPHtQP_DIGRAPHg(:A@STROKEvC@STROKEg):C@STROKEg(:L@BARvT@DIAGONAL_STROKEg):S@SWASH
  _TAILtZ@SWASH_TAILg(:GLOTTAL_STOPg):GLOTTAL_STOPg(:B@STROKEvU_BARvTURNED_VvE@STROKEg):E@STROKEg(
  :J@STROKEg):J@STROKEg(:)_Q@HOOK_TAILg):Q@HOOK_TAILg(:R@STROKEg):R@STROKEg(:Y@STROKEg):Y@STROKEtT
  URNED_AtALPHAtTURNED_ALPHAtB@HOOKtOPEN_OtC@CURLtD@TAIL!HOOKtREVERSED_EtSCHWAy@HOOKtOPEN_EtREVERS
  ED_OPEN_E;@HOOKtCLOSED_REVERSED_OPEN_EtDOTLESS_J@STROKEtG@HOOKtSCRIPT_GgLETTER_)_(_Gg):GAMMAtRAM
  S_HORNtTURNED_HtH@HOOKuENG@HOOKtI@STROKEuOTAgLETTER_)_(_Ig):L@MIDDLE_TILDE!BELT!RETROFLEX_HOOKuE
  ZHtTURNED_M$@LONG_LEGtM@HOOKtN@LEFT_HOOK!RETROFLEX_HOOKgLETTER_)_(_Ng):BARRED_OgLETTER_)_(_OEg):
  CLOSED_OMEGAtPHItTURNED_R$@LONG_LEG.HOOKtR@LONG_LEG!TAIL!FISHHOOKuEVERSED_R@FISHHOOKgLETTER_)_(_
  R$INVERTED_Rg):S@HOOKtESHtDOTLESS_J@STROKE/HOOKtSQUAT_REVERSED_ESHtESH@CURLtTURNED_Tu@RETROFLEX_
  HOOKtU_BARuPSILONtV@HOOKtTURNED_V!W!YgLETTER_)_(_Yg):Z@RETROFLEX_HOOK!CURLtEZHw@CURLgLETTER_GLOT
  TAL_STOPnPHARYNGEAL_VOICED_FRICATIVEnINVERTED_GLOTTAL_STOPnSTRETCHED_CnBILABIAL_CLICKn)_(_Bg):CL
  OSED_OPEN_EgLETTER_)_(_G@HOOK$Hg):J@CROSSED-TAILtTURNED_KgLETTER_)_(_Lg):Q@HOOKgLETTER_GLOTTAL_S
  TOP@STROKEnREVERSED_GLOTTAL_STOP@STROKEg):DZ_DIGRAPHuEZH_DIGRAPHuZ_DIGRAPH@CURLtTS_DIGRAPHuESH_D
  IGRAPHuC_DIGRAPH@CURLtFENG_DIGRAPHtLS_DIGRAPHuZ_DIGRAPHgLETTER_BILABIAL_PERCUSSIVEpDENTAL_PERCUS
  SIVEg):TURNED_H@FISHHOOK~K/TAILaMODIFIER:)_Hx@HOOKwJwRwTURNED_R*@HOOKw(_INVERTED_RwWwYqPRIMEqDOU
  BLE_PRIMEqTURNED_COMMAqAPOSTROPHEqREVERSED_COMMArIGHT_HALF_RINGqLEFT_HALF_RINGqGLOTTAL_STOPqREVE
  RSED_GLOTTAL_STOPqLEFT[HEADqRIGHT[HEADqUP[HEADqDOWN[HEADqCIRCUMFLEX_ACCENTaCARONaMODIFIER:VERTIC
  AL_LINEqMACRONqACUTE_ACCENTqGRAVE_ACCENTqLOW_VERTICAL_LINEuMACRONuGRAVE_ACCENTuACUTE_ACCENTqTRIA
  NGULAR_COLONqHALF_TRIANGULAR_COLONqCENTRED_RIGHT_HALF_RINGyLEFT_HALF_RINGqUP_TACKqDOWN_TACKqPLUS
  _SIGNqMINUS_SIGNaBREVEaDOT_ABOVEaRING_ABOVEaOGONEKa)_TILDEaDOUBLE_ACUTE_ACCENTaMODIFIER:RHOTIC_H
  OOKqCROSS_ACCENTq)_GAMMAwLwSwXwREVERSED_GLOTTAL_STOPqEXTRA-HIGH_TONE_BARqHIGH_TONE_BARqMID_TONE_
  BARqLOW_TONE_BARqEXTRA-LOW_TONE_BARqYIN_DEPARTING_TONE_MARKrANG_DEPARTING_TONE_MARKqVOICINGqUNAS
  PIRATEDqDOUBLE_APOSTROPHEqLOW_DOWN[HEADuUP[HEADuLEFT[HEADuRIGHT[HEADwNGqMIDDLE_GRAVE_ACCENTxDOUB
  LE_GRAVE_ACCENT*ACUTE_ACCENTqLOW_TILDEqRAISED_COLONqBEGIN_HIGH_TONEqEND_HIGH_TONEqBEGIN_LOW_TONE
  qEND_LOW_TONEqSHELFqOPEN_SHELFqLOW_LEFT[aCOMBINING_GRAVE_ACCENTkACUTE_ACCENTkCIRCUMFLEX_ACCENTkT
  ILDEkMACRONkOVERLINEkBREVEkDOT_ABOVElIAERESISkHOOK_ABOVEkRING_ABOVEkDOUBLE_ACUTE_ACCENTkCARONkVE
  RTICAL_LINE_ABOVEkDOUBLE_VERTICAL_LINE_ABOVErGRAVE_ACCENTkCANDRABINDUkINVERTED_BREVEkTURNED_COMM
  A_ABOVEkCOMMA_ABOVEkREVERSED_COMMA_ABOVEkCOMMA_ABOVE_RIGHTkGRAVE_ACCENT_BELOWkACUTE_ACCENT_BELOW
  kLEFT_TACK_BELOWkRIGHT_TACK_BELOWkLEFT_ANGLE_ABOVEkHORNkLEFT_HALF_RING_BELOWkUP_TACK_BELOWkDOWN_
  TACK_BELOWkPLUS_SIGN_BELOWkMINUS_SIGN_BELOWkPALATALIZED_HOOK_BELOWkRETROFLEX_HOOK_BELOWkDOT_BELO
  WlIAERESIS_BELOWkRING_BELOWkCOMMA_BELOWlEDILLAkOGONEKkVERTICAL_LINE_BELOWkBRIDGE_BELOWkINVERTED_
  DOUBLE_ARCH_BELOWkCARON_BELOWlIRCUMFLEX_ACCENT_BELOWkBREVE_BELOWkINVERTED_BREVE_BELOWkTILDE_BELO
  WkMACRON_BELOWkLOW_LINEkDOUBLE_LOW_LINEkTILDE_OVERLAYkSHORT_STROKE_OVERLAYkLONG_STROKE_OVERLAYkS
  HORT_SOLIDUS_OVERLAYkLONG_SOLIDUS_OVERLAYkRIGHT_HALF_RING_BELOWkINVERTED_BRIDGE_BELOWkSQUARE_BEL
  OWlEAGULL_BELOWkX_ABOVEkVERTICAL_TILDEkDOUBLE_OVERLINEkGRAVE_TONE_MARKkACUTE_TONE_MARKkGREEK_PER
  ISPOMENIqKORONISqDIALYTIKA_TONOSqYPOGEGRAMMENIkBRIDGE_ABOVEkEQUALS_SIGN_BELOWkDOUBLE_VERTICAL_LI
  NE_BELOWkLEFT_ANGLE_BELOWkNOT_TILDE_ABOVEkHOMOTHETIC_ABOVEkALMOST_EQUAL_TO_ABOVEkLEFT_RIGHT[_BEL
  OWkUPWARDS[_BELOWkGRAPHEME_JOINERkRIGHT[HEAD_ABOVEkLEFT_HALF_RING_ABOVEkFERMATAkX_BELOWkLEFT[HEA
  D_BELOWkRIGHT[HEAD_BELOW!AND_UP[HEAD_BELOWqHALF_RING_ABOVEkDOT_ABOVE_RIGHTkASTERISK_BELOWkDOUBLE
  _RING_BELOWkZIGZAG_ABOVEkDOUBLE_BREVE_BELOWwrMACRONx_BELOWrTILDErINVERTED_BREVErRIGHTWARDS[_BELO
  WkLATIN_):A&E&I&O&U&C&D&H&M&R&T&V&XaGREEK_(:HETAg):HETAg(:ARCHAIC_SAMPIg):ARCHAIC_SAMPIgNUMERAL_
  SIGNgLOWER_NUMERAL_SIGNg(:PAMPHYLIAN_DIGAMMAg):PAMPHYLIAN_DIGAMMA=37AgYPOGEGRAMMENIg)_REVERSED_L
  UNATE_SIGMA_SYMBOLmDOTTED_LUNATE_SIGMA_SYMBOLmREVERSED_DOTTED_LUNATE_SIGMA_SYMBOLgQUESTION_MARKg
  (:YOT=384gTONOSgDIALYTIKA_TONOSg(:ALPHA@TONOSgANO_TELEIAg(:EPSILON@TONOSwTA@TONOSvIOTA@TONOS=38C
  vOMICRON@TONOS=38EvUPSILON@TONOSvOMEGA@TONOSg):IOTA@DIALYTIKA/TONOSg(:ALPHAvBETAvGAMMAvDELTAvEPS
  ILONvZETAvETAvTHETAvIOTAvKAPPAvLAMDAvMUvNUvXIvOMICRONvPIvRHO=3A3vSIGMAvTAUvUPSILONvPHIvCHIvPSIvO
  MEGAvIOTA@DIALYTIKAvUPSILON@DIALYTIKAg):ALPHA@TONOStEPSILON@TONOSuTA@TONOStIOTA@TONOStUPSILON@DI
  ALYTIKA/TONOStALPHAtBETAtGAMMAtDELTAtEPSILONtZETAtETAtTHETAtIOTAtKAPPAtLAMDAtMUtNUtXItOMICRONtPI
  tRHOtFINAL_SIGMAtSIGMAtTAUtUPSILONtPHItCHItPSItOMEGAtIOTA@DIALYTIKAtUPSILON@DIALYTIKAtOMICRON@TO
  NOStUPSILON@TONOStOMEGA@TONOSg(_KAI_SYMBOLgBETA_SYMBOLgTHETA_SYMBOLgUPSILON@HOOK_SYMBOLtACUTE/HO
  OK_SYMBOLtDIAERESIS/HOOK_SYMBOLgPHI_SYMBOLhI_SYMBOLgKAI_SYMBOLgLETTER_ARCHAIC_KOPPAg):ARCHAIC_KO
  PPAgLETTER_STIGMAg):STIGMAgLETTER_DIGAMMAg):DIGAMMAgLETTER_KOPPAg):KOPPAgLETTER_SAMPIg):SAMPIaCO
  PTIC_(:SHEIh):SHEIh(:FEIh):FEIh(:KHEIh):KHEIh(:HORIh):HORIh(:GANGIAh):GANGIAh(:SHIMAh):SHIMAh(:D
  EIh):DEIaGREEK_KAPPA_SYMBOLgRHO_SYMBOLgLUNATE_SIGMA_SYMBOLhETTER_YOTg(_THETA_SYMBOLgLUNATE_EPSIL
  ON_SYMBOLgREVERSED_LUNATE_EPSILON_SYMBOLg(:SHOg):SHOg(_LUNATE_SIGMA_SYMBOLpETTER_SANg):SANgRHO@S
  TROKE_SYMBOLg(_REVERSED_LUNATE_SIGMA_SYMBOLoDOTTED_LUNATE_SIGMA_SYMBOLoREVERSED_DOTTED_LUNATE_SI
  GMA_SYMBOLaCYRILLIC_(:IE@GRAVEzOyDJEyGJEyUKRAINIAN_IEyDZEyBYELORUSSIAN-UKRAINIAN_IyYIyJEyLJEyNJE
  yTSHEyKJEyI@GRAVEySHORT_UyDZHEyAyBEyVEyGHEyDEyIEyZHEzEyIySHORT_IyKAyELzMzNyOyPEyERzSyTEyUyEFyHAy
  TSEyCHEySHA!CHAyHARD_SIGNyYERUySOFT_SIGNyEyYUzAj):AwBEwVEwGHEwDEwIEwZHExEwIwSHORT_IwKAwELxMxNwOw
  PEwERxSwTEwUwEFwHAwTSEwCHEwSHAyCHAwHARD_SIGNwYERUwSOFT_SIGNwEwYUxAwIE@GRAVExOwDJEwGJEwUKRAINIAN_
  IEwDZEwBYELORUSSIAN-UKRAINIAN_IwYIwJEwLJEwNJEwTSHEwKJEwI@GRAVEwSHORT_UwDZHEj(:OMEGAj):OMEGAj(:YA
  Tj):YATj(:IOTIFIED_Ej):IOTIFIED_Ej(:LITTLE_YUSj):LITTLE_YUSj(:IOTIFIED_LITTLE_YUSj):IOTIFIED_LIT
  TLE_YUSj(:BIG_YUSj):BIG_YUSj(:IOTIFIED_BIG_YUSj):IOTIFIED_BIG_YUSj(:KSIj):KSIj(:PSIj):PSIj(:FITA
  j):FITAj(:IZHITSAj):IZHITSAj(:IZHITSA@DOUBLE_GRAVE_ACCENTj):IZHITSA@DOUBLE_GRAVE_ACCENTj(:UKj):U
  Kj(:ROUND_OMEGAj):ROUND_OMEGAj(:OMEGA@TITLOj):OMEGA@TITLOj(:OTj):OTj(:KOPPAj):KOPPAjTHOUSANDS_SI
  GNbOMBINING_CYRILLIC_TITLOtPALATALIZATIONtDASIA_PNEUMATAtPSILI_PNEUMATAuOKRYTIEtHUNDRED_THOUSAND
  S_SIGNtMILLIONS_SIGNbYRILLIC_(:SHORT_I@TAILj):SHORT_I@TAILj(:SEMISOFT_SIGNj):SEMISOFT_SIGNj(:ER@
  TICKj):ER@TICKj(:GHE@UPTURNj):GHE@UPTURNj(:GHE@STROKEj):GHE@STROKEj(:GHE@MIDDLE_HOOKj):GHE@MIDDL
  E_HOOKj(:ZHE@DESCENDERj):ZHE@DESCENDERj(:ZE@DESCENDERj):ZE@DESCENDERj(:KA@DESCENDERj):KA@DESCEND
  ERj(:KA@VERTICAL_STROKEj):KA@VERTICAL_STROKEj(:KA@STROKEj):KA@STROKEj(:BASHKIR_KAj):BASHKIR_KAj(
  :EN@DESCENDERj):EN@DESCENDERj(_LIGATURE_EN_GHEj)_LIGATURE_EN_GHEj(:PE@MIDDLE_HOOKj):PE@MIDDLE_HO
  OKj(:ABKHASIAN_HAj):ABKHASIAN_HAj(:ES@DESCENDERj):ES@DESCENDERj(:TE@DESCENDERj):TE@DESCENDERj(:S
  TRAIGHT_Uj):STRAIGHT_Uj(:STRAIGHT_U@STROKEj):STRAIGHT_U@STROKEj(:HA@DESCENDERj):HA@DESCENDERj(_L
  IGATURE_TE_TSEj)_LIGATURE_TE_TSEj(:CHE@DESCENDERj):CHE@DESCENDERj(:CHE@VERTICAL_STROKEj):CHE@VER
  TICAL_STROKEj(:SHHAj):SHHAj(:ABKHASIAN_CHEj):ABKHASIAN_CHEj(:ABKHASIAN_CHE@DESCENDERj):ABKHASIAN
  _CHE@DESCENDERjLETTER_PALOCHKAj(:ZHE@BREVEj):ZHE@BREVEj(:KA@HOOKj):KA@HOOKj(:EL@TAILj):EL@TAILj(
  :EN@HOOKj):EN@HOOKj(:EN@TAILj):EN@TAILj(:KHAKASSIAN_CHEj):KHAKASSIAN_CHEj(:EM@TAILj):EM@TAILwPAL
  OCHKAj(:A@BREVEj):A@BREVEj(:A@DIAERESISj):A@DIAERESISj(_LIGATURE_A_IEj)_LIGATURE_A_IEj(:IE@BREVE
  j):IE@BREVEj(:SCHWAj):SCHWAj(:SCHWA@DIAERESISj):SCHWA@DIAERESISj(:ZHE@DIAERESISj):ZHE@DIAERESISj
  (:ZE@DIAERESISj):ZE@DIAERESISj(:ABKHASIAN_DZEj):ABKHASIAN_DZEj(:I@MACRONj):I@MACRONj(:I@DIAERESI
  Sj):I@DIAERESISj(:O@DIAERESISj):O@DIAERESISj(:BARRED_Oj):BARRED_Oj(:BARRED_O@DIAERESISj):BARRED_
  O@DIAERESISj(:E@DIAERESISj):E@DIAERESISj(:U@MACRONj):U@MACRONj(:U@DIAERESISj):U@DIAERESISj(:U@DO
  UBLE_ACUTEj):U@DOUBLE_ACUTEj(:CHE@DIAERESISj):CHE@DIAERESISj(:GHE@DESCENDERj):GHE@DESCENDERj(:YE
  RU@DIAERESISj):YERU@DIAERESISj(:GHE@STROKE/HOOKj):GHE@STROKE/HOOKj(:HA@HOOKj):HA@HOOKj(:HA@STROK
  Ej):HA@STROKEj(:KOMI_DEj):KOMI_DEj(:KOMI_DJEj):KOMI_DJEj(:KOMI_ZJEj):KOMI_ZJEj(:KOMI_DZJEj):KOMI
  _DZJEj(:KOMI_LJEj):KOMI_LJEj(:KOMI_NJEj):KOMI_NJEj(:KOMI_SJEj):KOMI_SJEj(:KOMI_TJEj):KOMI_TJEj(:
  REVERSED_ZEj):REVERSED_ZEj(:EL@HOOKj):EL@HOOKj(:LHAj):LHAj(:RHAj):RHAj(:YAEj):YAEj(:QAj):QAj(:WE
  j):WEj(:ALEUT_KAj):ALEUT_KAj(:EL@MIDDLE_HOOKj):EL@MIDDLE_HOOKj(:EN@MIDDLE_HOOKj):EN@MIDDLE_HOOKj
  (:PE@DESCENDERj):PE@DESCENDERj(:SHHA@DESCENDERj):SHHA@DESCENDERj(:EN@LEFT_HOOKj):EN@LEFT_HOOKj(:
  DZZHEj):DZZHEj(:DCHEj):DCHEj(:EL@DESCENDERj):EL@DESCENDER=531aARMENIAN_(:AYByBENyGIMyDAyECHyZAyE
  HzTyTOyZHEyINIyLIWNyXEHyCAyKENyHOyJAyGHADyCHEHyMENyYIyNOWySHAyVOyCHAyPEHyJHEHyRAySEHyVEWyTIWNyRE
  HyCOyYIWNyPIWRyKEHyOHyFEH=559jMODIFIER:LEFT_HALF_RINGjAPOSTROPHEjEMPHASIS_MARKkXCLAMATION_MARKjC
  OMMAjQUESTION_MARKjABBREVIATION_MARKj):TURNED_AYBwAYBwBENwGIMwDAwECHwZAwEHxTwTOwZHEwINIwLIWNwXEH
  wCAwKENwHOwJAwGHADwCHEHwMENwYIwNOWwSHAwVOwCHAwPEHwJHEHwRAwSEHwVEWwTIWNwREHwCOwYIWNwPIWRwKEHwOHwF
  EHqIGATURE_ECH_YIWNqETTER_YI@STROKEjFULL_STOPjHYPHEN=58DaRIGHT-FACING_ARMENIAN_ETERNITY_SIGNaLEF
  T-FACING_ARMENIAN_ETERNITY_SIGNaARMENIAN_DRAM_SIGN=591aHEBREW_ACCENT_ETNAHTAoSEGOLpHALSHELEToZAQ
  EF_QATANuGADOLoTIPEHAoREVIAoZARQAoPASHTAoYETIVoTEVIRoGERESHu_MUQDAMrSHAYIMoQARNEY_PARAoTELISHA_G
  EDOLAoPAZERoATNAH_HAFUKHoMUNAHpAHAPAKHpERKHAu_KEFULAoDARGAoQADMAoTELISHA_QETANAoYERAH_BEN_YOMOoO
  LEoILUYoDEHIoZINORhMARK_MASORA_CIRCLEhPOINT_SHEVAnHATAF_SEGOLtPATAHtQAMATSoIRIQnTSEREnSEGOLnPATA
  HnQAMATSnHOLAMs_HASER_FOR_VAVnQUBUTSnDAGESH_OR_MAPIQnMETEGiUNCTUATION_MAQAFiOINT_RAFEiUNCTUATION
  _PASEQiOINT_SHIN_DOToIN_DOTiUNCTUATION_SOF_PASUQhMARK_UPPER_DOTmLOWER_DOThPUNCTUATION_NUN_HAFUKH
  AiOINT_QAMATS_QATAN=5D0hLETTER_ALEFoBEToGIMELoDALEToHEoVAVoZAYINoHEToTEToYODoFINAL_KAFoKAFoLAMED
  oFINAL_MEMoMEMoFINAL_NUNoNUNoSAMEKHoAYINoFINAL_PEoPEoFINAL_TSADIoTSADIoQOFoRESHoSHINoTAV=5EFhYOD
  _TRIANGLEhLIGATURE_YIDDISH_DOUBLE_VAVyVAV_YODyDOUBLE_YODhPUNCTUATION_GERESHwSHAYIM=600aARABIC_NU
  MBER_SIGNhSIGN_SANAHhFOOTNOTE_MARKERhSIGN_SAFHAoMVAThNUMBER_MARK_ABOVEg-INDIC_CUBE_ROOTnFOURTH_R
  OOTg_RAYg-INDIC_PER_MILLE_SIGNrTEN_THOUSAND_SIGNbFGHANI_SIGNbRABIC_COMMAhDATE_SEPARATORhPOETIC_V
  ERSE_SIGNhSIGN_MISRAmSALLALLAHOU_ALAYHE_WASSALLAMmALAYHE_ASSALLAMmRAHMATULLAH_ALAYHEoDI_ALLAHOU_
  ANHUmTAKHALLUSiMALL_HIGH_TAHsLIGATURE_ALEF@LAM@YEHsZAINnFATHAnDAMMAnKASRAiEMICOLONhLETTER_MARKhE
  ND_OF_TEXT_MARKhTRIPLE_DOT_PUNCTUATION_MARKhQUESTION_MARKhLETTER_KASHMIRI_YEHoHAMZAoALEF@MADDA_A
  BOVEyHAMZA_ABOVEoWAW@HAMZA_ABOVEoALEF@HAMZA_BELOWoYEH@HAMZA_ABOVEoALEFoBEHoTEH_MARBUTArpHEHoJEEM
  oHAHoKHAHoDALoTHALoREHoZAINoSEENpHEENpADoDADoTAHoZAHoAINoGHAINoKEHEH@TWO_DOTS_ABOVE!HREE_DOTS_BE
  LOWoFARSI_YEH@INVERTED_V&TWO_DOTS_ABOVE*HREE_DOTS_ABOVEhTATWEELhLETTER_FEHoQAFoKAFoLAMoMEEMoNOON
  oHEHoWAWoALEF_MAKSURAoYEHhFATHATANhDAMMATANhKASRATANhFATHAhDAMMAhKASRAhSHADDAiUKUNhMADDAH_ABOVEh
  HAMZA_ABOVEnBELOWhSUBSCRIPT_ALEFhINVERTED_DAMMAhMARK_NOON_GHUNNAhZWARAKAYhVOWEL_SIGN_)_V_ABOVEsI
  NVERTED_)_V_ABOVEsDOT_BELOWhREVERSED_DAMMAhFATHA@TWO_DOTShWAVY_HAMZA_BELOWg-INDIC_DIGIT_ZEROtONE
  tTWOuHREEtFOURuIVEtSIXuEVENtEIGHTtNINEg_PERCENT_SIGNhDECIMAL_SEPARATORhTHOUSANDS_SEPARATORhFIVE_
  POINTED_STARhLETTER_DOTLESS_BEHwQAFoSUPERSCRIPT_ALEFoALEF_WASLAuITH_WAVY_HAMZA_ABOVE<BELOWoHIGH_
  HAMZAy_ALEFzWAWoU@HAMZA_ABOVEoHIGH_HAMZA_YEHoTTEHsEHoBEEHoTEH@RINGxTHREE_DOTS_ABOVE_DOWNWARDSoPE
  HoTEHEHoBEHEHoHAH@HAMZA_ABOVExTWO_DOTS_VERTICAL_ABOVEoNYEHoDYEHoHAH@THREE_DOTS_ABOVEoTCHEHtEHoDD
  ALpAL@RINGxDOT_BELOW,/)_TAHqHALpDAHALpULpAL@THREE_DOTS_ABOVE_DOWNWARDSxFOUR_DOTS_ABOVEoRREHpEH@)
  _VxRINGxDOT_BELOWx)_V_BELOWxDOT_BELOW/DOT_ABOVExTWO_DOTS_ABOVEoJEHoREH@FOUR_DOTS_ABOVEoSEEN@DOT_
  BELOW/DOT_ABOVEyTHREE_DOTS_BELOW~/THREE_DOTS_ABOVEpAD@TWO_DOTS_BELOWyHREE_DOTS_ABOVEoTAH@THREE_D
  OTS_ABOVEoAIN@THREE_DOTS_ABOVEoDOTLESS_FEHoFEH@DOT_MOVED_BELOW$BELOWoVEHoFEH@THREE_DOTS_BELOWoPE
  HEHoQAF@DOT_ABOVExTHREE_DOTS_ABOVEoKEHEHoSWASH_KAFoKAF@RINGxDOT_ABOVEoNGoKAF@THREE_DOTS_BELOWoGA
  Fr@RINGoNGOEHoGAF@TWO_DOTS_BELOWpUEHpAF@THREE_DOTS_ABOVEoLAM@)_VxDOT_ABOVExTHREE_DOTS_ABOVE;BELO
  WoNOON@DOT_BELOWtGHUNNAoRNOONoNOON@RINGyTHREE_DOTS_ABOVEoHEH_DOACHASHMEEoTCHEH@DOT_ABOVEoHEH@YEH
  _ABOVEsGOALw@HAMZA_ABOVEoTEH_MARBUTA_GOALoWAW@RINGoKIRGHIZ_OEoOEoUoYUoKIRGHIZ_YUoWAW@TWO_DOTS_AB
  OVEoVEoFARSI_YEHoYEH@TAILx)_VoWAW@DOT_ABOVEoEoYEH@THREE_DOTS_BELOWsBARREEy@HAMZA_ABOVEhFULL_STOP
  hLETTER_AEh)_HIGH_LIGATURE_SAD@LAM@ALEF_MAKSURA$QAF@LAM@ALEF_MAKSURAsMEEM_INITIAL]sLAM_ALEFsJEEM
  sTHREE_DOTSsSEENhEND_OF_AYAHhSTART_OF_RUB_EL_HIZBiMALL_HIGH_ROUNDED_ZEROsUPRIGHT_RECTANGULAR_ZER
  OsDOTLESS_HEAD_OF_KHAHsMEEM_ISOLATED]nLOW_SEENnHIGH_MADDAnWAWnYEHnHIGH_YEHsNOONhPLACE_OF_SAJDAHh
  EMPTY_CENTRE_LOW_STOPuHIGH_STOPhROUNDED_HIGH_STOP@FILLED_CENTREh)_LOW_MEEMhLETTER_DAL@INVERTED_V
  oREH@INVERTED_VaEXTENDED_ARABIC-INDIC_DIGIT_ZERO%ONE%TWO&HREE%FOUR&IVE%SIX&EVEN%EIGHT%NINEaARABI
  C:SHEEN@DOT_BELOWoDAD@DOT_BELOWoGHAIN@DOT_BELOWhSIGN_SINDHI_AMPERSANDtPOSTPOSITION_MENhLETTER_HE
  H@INVERTED_VaSYRIAC_END_OF_PARAGRAPHhSUPRALINEAR_FULL_STOPjBLINEAR_FULL_STOPjPRALINEAR_COLONjBLI
  NEAR_COLONhHORIZONTAL_COLONhCOLON_SKEWED_LEFTuRIGHThSUPRALINEAR_COLON_SKEWED_LEFTjBLINEAR_COLON_
  SKEWED_RIGHThCONTRACTIONhHARKLEAN_OBELUSqMETOBELUSqASTERISCUS=70FhABBREVIATION_MARKhLETTER_ALAPH
  oSUPERSCRIPT_ALAPHoBETHoGAMALt_GARSHUNIoDALATHpOTLESS_DALATH_RISHoHEoWAWoZAINoHETHoTETHs_GARSHUN
  IoYUDHs_HEoKAPHoLAMADHoMIMoNUNoSEMKATHoFINAL_SEMKATHoEoPEoREVERSED_PEoSADHEoQAPHoRISHoSHINoTAWoP
  ERSIAN_BHETHwGHAMALwDHALATHhPTHAHA_ABOVEoBELOWoDOTTEDhZQAPHA_ABOVEoBELOWoDOTTEDhRBASA_ABOVEnBELO
  WhDOTTED_ZLAMA_HORIZONTALuANGULARhHBASA_ABOVEnBELOWm-ESASA_DOTTEDhESASA_ABOVEnBELOWhRWAHAhFEMINI
  NE_DOThQUSHSHAYAhRUKKAKHAhTWO_VERTICAL_DOTS_ABOVEzBELOWiHREE_DOTS_ABOVEsBELOWhOBLIQUE_LINE_ABOVE
  uBELOWhMUSIChBARREKH=74DhLETTER_SOGDIAN_ZHAINwKHAPHwFEaARABIC:BEH@THREE_DOTS_HORIZONTALLY_BELOWx
  DOT_BELOW/THREE_DOTS_ABOVExTHREE_DOTS_POINTING_UPWARDS_BELOW~NG_UPWARDS_BELOW/TWO_DOTS_ABOVEyWO_
  DOTS_BELOW/DOT_ABOVExINVERTED_)_V_BELOWx)_VoHAH@TWO_DOTS_ABOVEyHREE_DOTS_POINTING_UPWARDS_BELOWo
  DAL@TWO_DOTS_VERTICALLY_BELOW/)_TAHxINVERTED_)_V_BELOWoREH@STROKEoSEEN@FOUR_DOTS_ABOVEoAIN@TWO_D
  OTS_ABOVEyHREE_DOTS_POINTING_DOWNWARDS_ABOVEyWO_DOTS_VERTICALLY_ABOVEoFEH@TWO_DOTS_BELOWyHREE_DO
  TS_POINTING_UPWARDS_BELOWoKEHEH@DOT_ABOVEzTHREE_DOTS_ABOVE>POINTING_UPWARDS_BELOWoMEEM@DOT_ABOVE
  %BELOWoNOON@TWO_DOTS_BELOWy)_TAH*VoLAM@BARoREH@TWO_DOTS_VERTICALLY_ABOVExHAMZA_ABOVEoSEEN@TWO_DO
  TS_VERTICALLY_ABOVEoHAH@)_ARABIC:TAH_BELOW~ER_TAH/TWO_DOTSoSEEN@)_ARABIC:TAH/TWO_DOTSoREH@)_ARAB
  IC:TAH/TWO_DOTSoHAH@)_ARABIC:TAH_ABOVEoALEF@EXTENDED_ARABIC-INDIC_DIGIT_TWO_ABOVE~INDIC_DIGIT_TH
  REE_ABOVEoFARSI_YEH@EXTENDED_ARABIC-INDIC_DIGIT_TWO_ABOVE~ABIC-INDIC_DIGIT_THREE_ABOVE~ABIC-INDI
  C_DIGIT_FOUR_BELOWoWAW@EXTENDED_ARABIC-INDIC_DIGIT_TWO_ABOVE~NDIC_DIGIT_THREE_ABOVEoYEH_BARREE@E
  XTENDED_ARABIC-INDIC_DIGIT_TWO_ABOVE~RABIC-INDIC_DIGIT_THREE_ABOVEoHAH@EXTENDED_ARABIC-INDIC_DIG
  IT_FOUR_BELOWoSEEN@EXTENDED_ARABIC-INDIC_DIGIT_FOUR_ABOVEyINVERTED_VoKAF@TWO_DOTS_ABOVEaTHAANA:H
  AAoSHAVIYANIoNOONUoRAAoBAAoLHAVIYANIoKAAFUoALIFUoVAAVUoMEEMUoFAAFUoDHAALUoTHAAoLAAMUoGAAFUpNAVIY
  ANIoSEENUoDAVIYANIoZAVIYANIoTAVIYANIoYAAoPAVIYANIoJAVIYANIoCHAVIYANIoTTAAoHHAAoKHAAoTHAALUoZAAoS
  HEENUpAADHUoDAADHUoTOoZOoAINUoGHAINUoQAAFUoWAAVUhABAFILIiABAAFILIhIBIFILIhEEBEEFILIhUBUFILIhOOBO
  OFILIhEBEFILIiYBEYFILIhOBOFILIiABOAFILIhSUKUNhLETTER_NAA=7C0aNKO_DIGIT_ZEROkONEkTWOlHREEkFOURlIV
  EkSIXlEVENkEIGHTkNINEeLETTER_AlEElIlElUlOOmlDAGBASINNAlNlBAlPAlTAlJAlCHAlDAlRAmRAlSAlGBAlFAlKAlL
  AlNA_WOLOSOlMAlNYAmAlHAlWAlYAlNYA_WOLOSOlJONA_JAqCHAqRAeCOMBINING_SHORT_HIGH_TONEuLOW_TONEuRISIN
  G_TONEoLONG_DESCENDING_TONEtHIGH_TONEtLOW_TONEtRISING_TONEoNASALIZATION_MARKoDOUBLE_DOT_ABOVEeHI
  GH_TONE_APOSTROPHEeLOW_TONE_APOSTROPHEeSYMBOL_OO_DENNENlGBAKURUNENeCOMMAeEXCLAMATION_MARKeLAJANY
  ALAN=7FDeDANTAYALANfOROME_SIGNeTAMAN_SIGNaSAMARITAN:ALAFrBITrGAMANrDALATrIYrBAArZENrITrTITrYUTrK
  AAFrLABATrMIMrNUNrSINGAATrINrFIrTSAADIYrQUFrRISHrSHANrTAAFkMARK_INr-ALAFpOCCLUSIONpDAGESHlODIFIE
  R:EPENTHETIC_YUTlARK_EPENTHETIC_YUTkVOWEL_SIGN_LONG_EvEvOVERLONG_AAvLONG_AAvAAvOVERLONG_AvLONG_A
  vAkMODIFIER:SHORT_AkVOWEL_SIGN_SHORT_AvLONG_UvUkMODIFIER:IkVOWEL_SIGN_LONG_IvIvOvSUKUNkMARK_NEQU
  DAA=830kPUNCTUATION_NEQUDAAwAFSAAQxNGEDwBAUwATMAAUwSHIYYAALAAkABBREVIATION_MARKkPUNCTUATION_MELO
  DIC_QITSAwZIQAAwQITSAwZAEFwTURUwARKAANUwSOF_MASHFAATwANNAAU=840aMANDAIC:HALQApABqGqDqHpUSHENNApA
  ZpITpATTqKSArqLqMqNqSpINpAPqSZqQqRqSHqTpDUSHENNApKADpAINiAFFRICATION_MARKiVOCALIZATION_MARKiGEMI
  NATION_MARK=85EiPUNCTUATION=860aSYRIAC:MALAYALAM_NGAyJAyNYAyTTAyNNA!NAyBHAyRAyLLA!LAySSA=870aARA
  BIC:ALEF@ATTACHED_FATHA.TOP_RIGHT_FATHAyRIGHT_MIDDLE_STROKEyLEFT_MIDDLE_STROKEyATTACHED_KASRA.BO
  TTOM_RIGHT_KASRA.ROUND_DOT_ABOVE;IGHT_ROUND_DOT.LEFT_ROUND_DOT.ROUND_DOT_BELOWyDOT_ABOVEyATTACHE
  D_TOP_RIGHT_FATHA/DOT_ABOVEyRIGHT_MIDDLE_STROKE/DOT_ABOVEyATTACHED_BOTTOM_RIGHT_KASRA/DOT_ABOVE.
  TOP_RIGHT_FATHA/LEFT_RINGyRIGHT_MIDDLE_STROKE/LEFT_RINGyATTACHED_BOTTOM_RIGHT_KASRA/LEFT_RING.RI
  GHT_HAMZA.LEFT_HAMZAhTATWEEL@OVERSTRUCK_HAMZA+WAWuTWO_DOTS_BELOWhLETTER_THIN_YEHhBASELINE_ROUND_
  DOThRAISED_ROUND_DOThLETTER_NOON@INVERTED_)_VoHAH@INVERTED_)_V_BELOWoTAH@DOT_BELOWxTHREE_DOTS_BE
  LOWoKEHEH@TWO_DOTS_VERTICALLY_BELOWhVERTICAL_TAIL=890hPOUND_MARK_ABOVEiIASTRE_MARK_ABOVE=898h)_H
  IGH_WORD_AL-JUZnLOW_WORD_ISHMAAMxMAALAwTASHEELhMADDA_WAAJIBhSUPERSCRIPT_ALEF_MOKHASSAShDOUBLED_M
  ADDAhHALF_MADDA_OVER_MADDAhLETTER_BEH@)_V_BELOWxHAMZA_ABOVEoJEEM@TWO_DOTS_ABOVEoTAH@TWO_DOTS_ABO
  VEoFEH@DOT_BELOW/THREE_DOTS_ABOVEoQAF@DOT_BELOWoLAM@DOUBLE_BARoMEEM@THREE_DOTS_ABOVEoYEH@TWO_DOT
  S_BELOW/HAMZA_ABOVE~D_DOT_ABOVEoREH@LOOPoWAW@DOT_WITHINoROHINGYA_YEHoLOW_ALEFoDAL@THREE_DOTS_BEL
  OWoSAD@THREE_DOTS_BELOWoGAF@INVERTED_STROKEoSTRAIGHT_WAWoZAIN@INVERTED_V_ABOVEoAIN@THREE_DOTS_BE
  LOWoKAF@DOT_BELOWoQAF@DOT_BELOW/NO_DOTS_ABOVEoBEH@)_MEEM_ABOVEoPEH@)_MEEM_ABOVEoTEH@)_TEH_ABOVEo
  REH@)_NOON_ABOVEoYEH@TWO_DOTS_BELOW/)_NOON_ABOVEoAFRICAN_FEHwQAFwNOONoPEH@)_VoTEH@)_VpTEH@)_VpCH
  EH@)_VoKEHEH@)_VoGHAIN@THREE_DOTS_ABOVEoAFRICAN_QAF@THREE_DOTS_ABOVEoJEEM@THREE_DOTS_ABOVE<BELOW
  oLAM@)_ARABIC:TAH_ABOVEoGRAFh)_FARSI_YEHnHIGH_FARSI_YEHsYEH_BARREE@TWO_DOTS_BELOWsWORD_SAHsZAHhL
  ARGE_ROUND_DOT_ABOVExBELOWhSUKUN_BELOWhLARGE_CIRCLE_BELOWnROUND_DOT_INSIDE_CIRCLE_BELOWh)_LOW_WA
  WnHIGH_WORD_AR-RUBsSADsAINsQAFsNOON@KASRAnLOW_NOON@KASRAnHIGH_WORD_ATH-THALATHAyS-SAJDAyN-NISFxS
  AKTAxQIFxWAQFAsFOOTNOTE_MARKERsSIGN_SAFHAhDISPUTED_END_OF_AYAHhTURNED_DAMMA_BELOWhCURLY_FATHAnDA
  MMAnKASRAnFATHATANnDAMMATANnKASRATANhTONE_ONE_DOT_ABOVEmTWO_DOTS_ABOVEmLOOP_ABOVEmONE_DOT_BELOWm
  TWO_DOTS_BELOWmLOOP_BELOWhOPEN_FATHATANmDAMMATANmKASRATANh)_HIGH_WAWhFATHA@RINGsDOT_ABOVEhKASRA@
  DOT_BELOWhLEFT[HEAD_ABOVEhRIGHT[HEAD_ABOVEhLEFT[HEAD_BELOWhRIGHT[HEAD_BELOWhDOUBLE_RIGHT[HEAD_AB
  OVE<@DOThRIGHT[HEAD_ABOVE@DOThDAMMA@DOThMARK_SIDEWAYS_NOON_GHUNNAaDEVANAGARI_SIGN_INVERTED_CANDR
  ABINDUqCANDRABINDUqANUSVARAqVISARGAlLETTER_SHORT_AsAtAsItIsUtUsVOCALIC_R!LsCANDRA_EsSHORT_EsEsAI
  sCANDRA_OsSHORT_OsOsAUsKAtHAsGAtHAsNGAsCAtHAsJAtHAsNYAsTTAuHAsDDAuHAsNNAsTAtHAsDAtHAsNAtNNAsPAtH
  AsBAtHAsMAsYAsRAtRAsLAtLAuLAsVAsSHAtSAtAsHAlVOWEL_SIGN_OExOElSIGN_NUKTAqAVAGRAHAlVOWEL_SIGN_AAwI
  xIwUxUwVOCALIC_R+RwCANDRA_EwSHORT_EwEwAIwCANDRA_OwSHORT_OwOwAUlSIGN_VIRAMAlVOWEL_SIGN_PRISHTHAMA
  TRA_EwAWlOMlSTRESS_SIGN_UDATTAxANUDATTAlGRAVE_ACCENTlACUTE_ACCENTlVOWEL_SIGN_CANDRA_LONG_EwUExUE
  lLETTER_QAsKHHAsGHHAsZAsDDDHAsRHAsFAsYYAsVOCALIC_RR!LLlVOWEL_SIGN_VOCALIC_L+LlDANDAmOUBLE_DANDAm
  IGIT_ZEROrONErTWOsHREErFOURsIVErSIXsEVENrEIGHTrNINElABBREVIATION_SIGNlSIGN_HIGH_SPACING_DOTlLETT
  ER_CANDRA_AsOEtOEsAWsUEtUEsMARWARI_DDAsZHAsHEAVY_YAsGGAsJJAsGLOTTAL_STOPsDDDAsBBAaBENGALI_ANJIiS
  IGN_CANDRABINDUnANUSVARAnVISARGA=985iLETTER_AqApIqIpUqUpVOCALIC_RxL=98FpEpAI=993pOpAUpKAqHApGAqH
  ApNGApCAqHApJAqHApNYApTTArHApDDArHApNNApTAqHApDAqHApNA=9AApPAqHApBAqHApMApYApRA=9B2pLA=9B6pSHAqS
  AqApHA=9BCiSIGN_NUKTAnAVAGRAHAiVOWEL_SIGN_AAtIuItUuUtVOCALIC_R%R=9C7tEtAI=9CBtOtAUiSIGN_VIRAMAiL
  ETTER_KHANDA_TA=9D7iAU_LENGTH_MARK=9DCiLETTER_RRAqHA=9DFpYYApVOCALIC_RRxLLiVOWEL_SIGN_VOCALIC_L%
  L=9E6iDIGIT_ZEROoONEoTWOpHREEoFOURpIVEoSIXpEVENoEIGHToNINEiLETTER_RA@MIDDLE_DIAGONALxLOWER_DIAGO
  NALiRUPEE_MARKoSIGNiCURRENCY_NUMERATOR_ONE$TWO%HREE$FOUR$ONE_LESS_THAN_THE_DENOMINATORrDENOMINAT
  OR_SIXTEENiISSHARiGANDA_MARKiLETTER_VEDIC_ANUSVARAiABBREVIATION_SIGNiSANDHI_MARK=A01aGURMUKHI_SI
  GN_ADAK_BINDIoBINDIoVISARGA=A05jLETTER_ArAqIrIqUrU=A0FqEEqAI=A13qOOqAUqKArHAqGArHAqNGAqCArHAqJAr
  HAqNYAqTTAsHAqDDAsHAqNNAqTArHAqDArHAqNA=A2AqPArHAqBArHAqMAqYAqRA=A32qLArLA=A35qVAqSHA=A38rAqHA=A
  3CjSIGN_NUKTA=A3EjVOWEL_SIGN_AAuIvIuUvU=A47uEEuAI=A4BuOOuAUjSIGN_VIRAMA=A51oUDAAT=A59jLETTER_KHH
  AqGHHAqZAqRRA=A5EqFA=A66jDIGIT_ZEROpONEpTWOqHREEpFOURqIVEpSIXqEVENpEIGHTpNINEjTIPPIjADDAKjIRIjUR
  AjEK_ONKARjSIGN_YAKASHjABBREVIATION_SIGN=A81cJARATI_SIGN_CANDRABINDUoANUSVARAoVISARGA=A85jLETTER
  _ArAqIrIqUrUqVOCALIC_RyLjVOWEL_CANDRA_E=A8FjLETTER_EqAIjVOWEL_CANDRA_O=A93jLETTER_OqAUqKArHAqGAr
  HAqNGAqCArHAqJArHAqNYAqTTAsHAqDDAsHAqNNAqTArHAqDArHAqNA=AAAqPArHAqBArHAqMAqYAqRA=AB2qLArLA=AB5qV
  AqSHArSArAqHA=ABCjSIGN_NUKTAoAVAGRAHAjVOWEL_SIGN_AAuIvIuUvUuVOCALIC_R&RuCANDRA_E=AC7uEuAIuCANDRA
  _O=ACBuOuAUjSIGN_VIRAMA=AD0jOM=AE0jLETTER_VOCALIC_RRyLLjVOWEL_SIGN_VOCALIC_L&L=AE6jDIGIT_ZEROpON
  EpTWOqHREEpFOURqIVEpSIXqEVENpEIGHTpNINEjABBREVIATION_SIGNjRUPEE_SIGN=AF9jLETTER_ZHAjSIGN_SUKUNpH
  ADDAoMADDAHoTHREE-DOT_NUKTA_ABOVEoCIRCLE_NUKTA_ABOVEoTWO-CIRCLE_NUKTA_ABOVE=B01aORIYA_SIGN_CANDR
  ABINDUlANUSVARAlVISARGA=B05gLETTER_AoAnIoInUoUnVOCALIC_RvL=B0FnEnAI=B13nOnAUnKAoHAnGAoHAnNGAnCAo
  HAnJAoHAnNYAnTTApHAnDDApHAnNNAnTAoHAnDAoHAnNA=B2AnPAoHAnBAoHAnMAnYAnRA=B32nLAoLA=B35nVAnSHAoSAoA
  nHA=B3CgSIGN_NUKTAlAVAGRAHAgVOWEL_SIGN_AArIsIrUsUrVOCALIC_R!R=B47rErAI=B4BrOrAUgSIGN_VIRAMA=B55l
  OVERLINEgAI_LENGTH_MARKhU_LENGTH_MARK=B5CgLETTER_RRAoHA=B5FnYYAnVOCALIC_RRvLLgVOWEL_SIGN_VOCALIC
  _L!L=B66gDIGIT_ZEROmONEmTWOnHREEmFOURnIVEmSIXnEVENmEIGHTmNINEgISSHARgLETTER_WAgFRACTION_ONE_QUAR
  TERtHALFpTHREE_QUARTERSpONE_SIXTEENTHtEIGHTHpTHREE_SIXTEENTHS=B82aTAMIL_SIGN_ANUSVARAlVISARGA=B8
  5gLETTER_AoAnIoInUoU=B8EnEoEnAI=B92nOoOnAUnKA=B99nNGAnCA=B9CnJA=B9EnNYAnTTA=BA3nNNAnTA=BA8nNAoNN
  AnPA=BAEnMAnYAnRAoRAnLAoLApLAnVAnSHAoSAoAnHA=BBEgVOWEL_SIGN_AArIsIrUsU=BC6rEsErAI=BCArOsOrAUgSIG
  N_VIRAMA=BD0gOM=BD7gAU_LENGTH_MARK=BE6gDIGIT_ZEROmONEmTWOnHREEmFOURnIVEmSIXnEVENmEIGHTmNINEgNUMB
  ER_TENnONE_HUNDREDrTHOUSANDgDAY_SIGNgMONTH_SIGNgYEAR_SIGNgDEBIT_SIGNgCREDIT_SIGNgAS_ABOVE_SIGNgR
  UPEE_SIGNgNUMBER_SIGN=C00bELUGU_SIGN_COMBINING_CANDRABINDU_ABOVEnANDRABINDUmANUSVARAmVISARGAmCOM
  BINING_ANUSVARA_ABOVEhLETTER_ApAoIpIoUpUoVOCALIC_RwL=C0EoEpEoAI=C12oOpOoAUoKApHAoGApHAoNGAoCApHA
  oJApHAoNYAoTTAqHAoDDAqHAoNNAoTApHAoDApHAoNA=C2AoPApHAoBApHAoMAoYAoRApRAoLApLAqLAoVAoSHApSApAoHA=
  C3ChSIGN_NUKTAmAVAGRAHAhVOWEL_SIGN_AAsItIsUtUsVOCALIC_R$R=C46sEtEsAI=C4AsOtOsAUhSIGN_VIRAMA=C55h
  LENGTH_MARKhAI_LENGTH_MARK=C58hLETTER_TSAoDZAoRRRA=C5DoNAKAARA_POLLU=C60oVOCALIC_RRwLLhVOWEL_SIG
  N_VOCALIC_L$L=C66hDIGIT_ZEROnONEnTWOoHREEnFOURoIVEnSIXoEVENnEIGHTnNINE=C77hSIGN_SIDDHAMhFRACTION
  _DIGIT_ZERO_FOR_ODD_POWERS_OF_FOURwONE_FOR_ODD_POWERS_OF_FOURwTWO_FOR_ODD_POWERS_OF_FOURxHREE_FO
  R_ODD_POWERS_OF_FOURwONE_FOR_EVEN_POWERS_OF_FOURwTWO_FOR_EVEN_POWERS_OF_FOURxHREE_FOR_EVEN_POWER
  S_OF_FOURhSIGN_TUUMUaKANNADA_SIGN_SPACING_CANDRABINDUnCANDRABINDUnANUSVARAnVISARGAnSIDDHAMiLETTE
  R_AqApIqIpUqUpVOCALIC_RxL=C8EpEqEpAI=C92pOqOpAUpKAqHApGAqHApNGApCAqHApJAqHApNYApTTArHApDDArHApNN
  ApTAqHApDAqHApNA=CAApPAqHApBAqHApMApYApRAqRApLAqLA=CB5pVApSHAqSAqApHA=CBCiSIGN_NUKTAnAVAGRAHAiVO
  WEL_SIGN_AAtIuItUuUtVOCALIC_R%R=CC6tEuEtAI=CCAtOuOtAUiSIGN_VIRAMA=CD5iLENGTH_MARKiAI_LENGTH_MARK
  =CDDiLETTER_NAKAARA_POLLUpFA=CE0pVOCALIC_RRxLLiVOWEL_SIGN_VOCALIC_L%L=CE6iDIGIT_ZEROoONEoTWOpHRE
  EoFOURpIVEoSIXpEVENoEIGHToNINE=CF1iSIGN_JIHVAMULIYAnUPADHMANIYA=D00aMALAYALAM_SIGN_COMBINING_ANU
  SVARA_ABOVEqANDRABINDUpANUSVARApVISARGAkLETTER_VEDIC_ANUSVARArAsArIsIrUsUrVOCALIC_RzL=D0ErEsErAI
  =D12rOsOrAUrKAsHArGAsHArNGArCAsHArJAsHArNYArTTAtHArDDAtHArNNArTAsHArDAsHArNAsNNArPAsHArBAsHArMAr
  YArRAsRArLAsLAtLArVArSHAsSAsArHArTTTAkSIGN_VERTICAL_BAR_VIRAMApCIRCULAR_VIRAMApAVAGRAHAkVOWEL_SI
  GN_AAvIwIvUwUvVOCALIC_R*R=D46vEwEvAI=D4AvOwOvAUkSIGN_VIRAMAkLETTER_DOT_REPHkSIGN_PARA=D54kLETTER
  _CHILLU_MyYyLLLkAU_LENGTH_MARKkFRACTION_ONE_ONE-HUNDRED-AND-SIXTIETHxFORTIETHtTHREE_EIGHTIETHStO
  NE_TWENTIETHyENTHtTHREE_TWENTIETHStONE_FIFTHkLETTER_ARCHAIC_IIrVOCALIC_RRzLLkVOWEL_SIGN_VOCALIC_
  L*L=D66kDIGIT_ZEROqONEqTWOrHREEqFOURrIVEqSIXrEVENqEIGHTqNINEkNUMBER_TENrONE_HUNDREDvTHOUSANDkFRA
  CTION_ONE_QUARTERxHALFtTHREE_QUARTERStONE_SIXTEENTHxEIGHTHtTHREE_SIXTEENTHSkDATE_MARKkLETTER_CHI
  LLU_NNzyRRyLzLyK=D81aSINHALA_SIGN_CANDRABINDUnANUSVARAYAnVISARGAYA=D85iLETTER_AYANNAqAYANNAqEYAN
  NArEYANNApIYANNAqIYANNApUYANNAqUYANNApIRUYANNAsUYANNAqLUYANNAsUYANNApEYANNAqEYANNApAIYANNApOYANN
  AqOYANNApAUYANNA=D9AqLPAPRAANA_KAYANNApMAHAAPRAANA_KAYANNApALPAPRAANA_GAYANNApMAHAAPRAANA_GAYANN
  ApKANTAJA_NAASIKYAYApSANYAKA_GAYANNApALPAPRAANA_CAYANNApMAHAAPRAANA_CAYANNApALPAPRAANA_JAYANNApM
  AHAAPRAANA_JAYANNApTAALUJA_NAASIKYAYAxSANYOOGA_NAAKSIKYAYApSANYAKA_JAYANNApALPAPRAANA_TTAYANNApM
  AHAAPRAANA_TTAYANNApALPAPRAANA_DDAYANNApMAHAAPRAANA_DDAYANNAqUURDHAJA_NAYANNApSANYAKA_DDAYANNApA
  LPAPRAANA_TAYANNApMAHAAPRAANA_TAYANNApALPAPRAANA_DAYANNApMAHAAPRAANA_DAYANNApDANTAJA_NAYANNA=DB3
  pSANYAKA_DAYANNApALPAPRAANA_PAYANNApMAHAAPRAANA_PAYANNApALPAPRAANA_BAYANNApMAHAAPRAANA_BAYANNArY
  ANNApAMBA_BAYANNApYAYANNApRAYANNA=DBDpDANTAJA_LAYANNA=DC0pVAYANNApTAALUJA_SAYANNApMUURDHAJA_SAYA
  NNApDANTAJA_SAYANNApHAYANNApMUURDHAJA_LAYANNApFAYANNA=DCAiSIGN_AL-LAKUNA=DCFiVOWEL_SIGN_AELA-PIL
  LAtKETTI_AEDA-PILLAtDIGA_AEDA-PILLAtKETTI_IS-PILLAtDIGA_IS-PILLAtKETTI_PAA-PILLA=DD6tDIGA_PAA-PI
  LLA=DD8tGAETTA-PILLAtKOMBUVAtDIGA_KOMBUVAtKOMBU_DEKAyVA_HAA_AELA-PILLA+DIGA_AELA-PILLA+GAYANUKIT
  TAtGAYANUKITTA=DE6iLITH_DIGIT_ZEROtONEtTWOuHREEtFOURuIVEtSIXuEVENtEIGHTtNINE=DF2iVOWEL_SIGN_DIGA
  _GAETTA-PILLA!YANUKITTAiPUNCTUATION_KUNDDALIYA=E01aTHAI_CHARACTER_KO_KAIqHO_KHAIvUATvWAIvONtRAKH
  ANGpNGO_NGUpCHO_CHANvINGvANGpSO_SOpCHO_CHOEpYO_YINGpDO_CHADApTO_PATAKqHO_THANtNANGMONTHOtPHUTHAO
  pNO_NENpDO_DEKpTO_TAOqHO_THUNGvAHANvONGpNO_NUpBO_BAIMAIpPO_PLAqHO_PHUNGpFO_FApPHO_PHANpFO_FANpPH
  O_SAMPHAOpMO_MApYO_YAKpRO_RUAqUpLO_LINGqUpWO_WAENpSO_SALAsRUSIsSUApHO_HIPpLO_CHULApO_ANGpHO_NOKH
  UKpPAIYANNOIpSARA_ApMAI_HAN-AKATpSARA_AAvMuIvIuUEwEvvUpPHINTHU=E3FgURRENCY_SYMBOL_BAHTgHARACTER_
  SARA_EuAEuOuAI_MAIMUAN$ALAIpLAKKHANGYAOpMAIYAMOKsTAIKHUs_EKtTHOuRItCHATTAWApTHANTHAKHATpNIKHAHIT
  pYAMAKKANpFONGMANfDIGIT_ZEROlONElTWOmHREElFOURmIVElSIXmEVENlEIGHTlNINEfCHARACTER_ANGKHANKHUpKHOM
  UT=E81aLAO:KOmHO_SUNG=E84pTAM=E86lPALI_GHAlNGOlCOlPALI_CHAlSO_TAM=E8ClPALI_JHAlNYOlPALI_NYAqTTAs
  HAqDDAsHAqNNAlDOlTOmHO_SUNGpTAMlPALI_DHAlNOlBOlPOmHO_SUNGlFO_TAMlPHO_TAMlFO_SUNGlPALI_BHAlMOlYOl
  LO_LING=EA5pOOT=EA7lWOlSANSKRIT_SHAvSAmO_SUNGlHO_SUNGlPALI_LLAlOlHO_TAMeELLIPSISeVOWEL_SIGN_ApMA
  I_KANpAAqMpIqIpYqYpUqUeSIGN_PALI_VIRAMAeVOWEL_SIGN_MAI_KONeSEMIVOWEL_SIGN_LOtNYO=EC0eVOWEL_SIGN_
  EqIpOpAYqI=EC6eKO_LA=EC8eTONE_MAI_EKnTHOoInCATAWAeCANCELLATION_MARKeNIGGAHITA=ED0eDIGIT_ZEROkONE
  kTWOlHREEkFOURlIVEkSIXlEVENkEIGHTkNINE=EDCeHO_NOhMOeLETTER_KHMU_GOqNYO=F00aTIBETAN_SYLLABLE_OMiM
  ARK_GTER_YIG_MGO_TRUNCATED_A!-UM_RNAM_BCAD_MA*GTER_TSHEG_MAnINITIAL_YIG_MGO_MDUN_MAnCLOSING_YIG_
  MGO_SGAB_MAoARET_YIG_MGO_PHUR_SHAD_MAnYIG_MGO_TSHEG_SHAD_MAnSBRUL_SHADnBSKUR_YIG_MGOoKA-_SHOG_YI
  G_MGOnINTERSYLLABIC_TSHEGnDELIMITER_TSHEG_BSTARnSHADnNYIS_SHADnTSHEG_SHADnNYIS_TSHEG_SHADnRIN_CH
  EN_SPUNGS_SHADoGYA_GRAM_SHADnCARET_-DZUD_RTAGS_ME_LONG_CANnGTER_TSHEGiLOGOTYPE_SIGN_CHAD_RTAGSwL
  HAG_RTAGSiASTROLOGICAL_SIGN_SGRA_GCAN_-CHAR_RTAGS!-KHYUD_PA!SDONG_TSHUGSiSIGN_RDEL_DKAR_GCIGyNYI
  SySUMsNAG_GCIGxNYISsDKAR_RDEL_NAGiDIGIT_ZEROoONEoTWOpHREEoFOURpIVEoSIXpEVENoEIGHToNINEoHALF_ONEt
  TWOuHREEtFOURuIVEtSIXuEVENtEIGHTtNINEtZEROiMARK_BSDUS_RTAGSnNGAS_BZUNG_NYI_ZLAnCARET_-DZUD_RTAGS
  _BZHI_MIG_CANnNGAS_BZUNG_SGOR_RTAGSnCHE_MGOnTSA_-PHRUnGUG_RTAGS_GYONzASnANG_KHANG_GYONzASiSIGN_Y
  AR_TSHESnMAR_TSHESiLETTER_KAqHApGAqHApNGApCAqHApJA=F49pNYApTTArHApDDArHApNNApTAqHApDAqHApNApPAqH
  ApBAqHApMApTSArHApDZArHApWApZHAqAp-ApYApRApLApSHAqSAqApHApApKSSApFIXED-FORM_RApKKApRRA=F71iVOWEL
  _SIGN_AAtIuItUuUtVOCALIC_R%R$L%LtEuEtOuOiSIGN_RJES_SU_NGA_ROoNAM_BCADiVOWEL_SIGN_REVERSED_I&IiSI
  GN_NYI_ZLA_NAA_DAnSNA_LDANiMARK_HALANTAnPALUTAiSIGN_LCI_RTAGSnYANG_RTAGSnLCE_TSA_CANnMCHU_CANnGR
  U_CAN_RGYINGSrMED_RGYINGSnINVERTED_MCHU_CANjUBJOINED_SIGN_LCE_TSA_CANxMCHU_CANxINVERTED_MCHU_CAN
  sLETTER_KA!HAzGA!HAzNGAzCA!HAzJA=F99zNYAzTTA$HAzDDA$HAzNNAzTA!HAzDA!HAzNAzPA!HAzBA!HAzMAzTSA$HAz
  DZA$HAzWAzZHA!Az-AzYAzRAzLAzSHA!SA!AzHAzAzKSSAzFIXED-FORM_WA>YA>RA=FBEiKU_RU_KHAr_BZHI_MIG_CANiC
  ANTILLATION_SIGN_HEAVY_BEAT!LIGHT_BEAT!CANG_TE-U!SBUB_-CHALiSYMBOL_DRIL_BUpRDO_RJEpPADMA_GDANpRD
  O_RJE_RGYA_GRAMpPHUR_PApNOR_BUv_NYIS_-KHYILwGSUM_-KHYILwBZHI_-KHYIL=FCEjIGN_RDEL_NAG_RDEL_DKARwG
  SUMiMARK_BSKA-_SHOG_GI_MGO_RGYANnMNYAM_YIG_GI_MGO_RGYANnNYIS_TSHEGnINITIAL_BRDA_RNYING_YIG_MGO_M
  DUN_MAnCLOSING_BRDA_RNYING_YIG_MGO_SGAB_MAaRIGHT-FACING_SVASTI_SIGNaLEFT-FACING_SVASTI_SIGNaRIGH
  T-FACING_SVASTI_SIGN@DOTSaLEFT-FACING_SVASTI_SIGN@DOTSaTIBETAN_MARK_LEADING_MCHAN_RTAGSnTRAILING
  _MCHAN_RTAGS=1000aMYANMAR:KAqHApGAqHApNGApCAqHApJAqHApNYAqNYApTTArHApDDArHApNNApTAqHApDAqHApNApP
  AqHApBAqHApMApYApRApLApWApSApHApLLApApSHAN_ApIqIpUqUpEpMON_EpOpAUiVOWEL_SIGN_TALL_AAtAAtIuItUuUt
  EtAItMON_IIxOtE_ABOVEiSIGN_ANUSVARAnDOT_BELOWnVISARGApRAMAnASATiCONSONANT_SIGN_MEDIAL_YA*RA*WA*H
  AiLETTER_GREAT_SAiDIGIT_ZEROoONEoTWOpHREEoFOURpIVEoSIXpEVENoEIGHToNINEiSIGN_LITTLE_SECTIONnSECTI
  ONjYMBOL_LOCATIVEpCOMPLETEDpAFOREMENTIONEDpGENITIVEiLETTER_SHAqSApVOCALIC_RyRxLyLiVOWEL_SIGN_VOC
  ALIC_R%R$L%LiLETTER_MON_NGAtJHAtBBAvEiCONSONANT_SIGN_MON_MEDIAL_NA;MA;LAiLETTER_SGAW_KAREN_SHAiV
  OWEL_SIGN_SGAW_KAREN_EUiTONE_MARK_SGAW_KAREN_HATHI&KE_PHOiLETTER_WESTERN_PWO_KAREN_THA.PWAiVOWEL
  _SIGN_WESTERN_PWO_KAREN_EU?UEiSIGN_WESTERN_PWO_KAREN_TONE-1>2>3>4>5iLETTER_EASTERN_PWO_KAREN_NNA
  .YWA.GHWAiVOWEL_SIGN_GEBA_KAREN_ItKAYAH_OEzUzEEiLETTER_SHAN_KAvHAuGAuCAuZAuNYAuDAuNAuPHAuFAuBAuT
  HAuHAiCONSONANT_SIGN_SHAN_MEDIAL_WAiVOWEL_SIGN_SHAN_AAyEz_ABOVEyFINAL_YiSIGN_SHAN_TONE-2x3x5x6sC
  OUNCIL_TONE-2+3!EMPHATIC_TONEiLETTER_RUMAI_PALAUNG_FAiSIGN_RUMAI_PALAUNG_TONE-5jHAN_DIGIT_ZEROtO
  NEtTWOuHREEtFOURuIVEtSIXuEVENtEIGHTtNINEjIGN_KHAMTI_TONE-1z3iVOWEL_SIGN_AITON_A!IiSYMBOL_SHAN_ON
  EuEXCLAMATIONaGEORGIAN_(:ANyBANyGANyDONyENyVINyZENyTANyINyKANyLASyMANyNARyONyPARyZHARyRAEySANyTA
  RyUNyPHARyKHARyGHANyQARySHINyCHINzANyJILyCILzHARyXANyJHANyHAEzEzIEyWEyHARzOE=10C7yYN=10CDyAEN=10
  D0jLETTER_ANqBANqGANqDONqENqVINqZENqTANqINqKANqLASqMANqNARqONqPARqZHARqRAEqSANqTARqUNqPHARqKHARq
  GHANqQARqSHINqCHINrANqJILqCILrHARqXANqJHANqHAErErIEqWEqHARrOEqFIqYNqELIFIqTURNED_GANqAINjPARAGRA
  PH_SEPARATORaMODIFIER:GEORGIAN_NARaGEORGIAN:AENqHARD_SIGNqLABIAL_SIGNaHANGUL_CHOSEONG_KIYEOKqSSA
  NGKIYEOKqNIEUNqTIKEUTqSSANGTIKEUTqRIEULqMIEUMqPIEUPqSSANGPIEUPrIOSrSANGSIOSqIEUNGqCIEUCqSSANGCIE
  UCqCHIEUCHqKHIEUKHqTHIEUTHqPHIEUPHqHIEUHqNIEUN-KIYEOKqSSANGNIEUNqNIEUN-TIKEUTwPIEUPqTIKEUT-KIYEO
  KqRIEUL-NIEUNqSSANGRIEULqRIEUL-HIEUHqKAPYEOUNRIEULqMIEUM-PIEUPqKAPYEOUNMIEUMqPIEUP-KIYEOKwNIEUNw
  TIKEUTwSIOS!-KIYEOK$TIKEUT$PIEUPxSANGSIOSxIOS-CIEUCwCIEUCxHIEUCHwTHIEUTHwPHIEUPHqKAPYEOUNPIEUPyS
  SANGPIEUPqSIOS-KIYEOKvNIEUNvTIKEUTvRIEULvMIEUMvPIEUP!-KIYEOKvSSANGSIOSvIEUNGvCIEUCwHIEUCHvKHIEUK
  HvTHIEUTHvPHIEUPHvHIEUHqCHITUEUMSIOSzSANGSIOSrEONGCHIEUMSIOS%SANGSIOSqPANSIOSqIEUNG-KIYEOKwTIKEU
  TwMIEUMwPIEUPwSIOSwPANSIOSqSSANGIEUNGqIEUNG-CIEUCxHIEUCHwTHIEUTHwPHIEUPHqYESIEUNGqCIEUC-IEUNGrHI
  TUEUMCIEUCySSANGCIEUCrEONGCHIEUMCIEUC$SSANGCIEUCrHIEUCH-KHIEUKHyHIEUHtTUEUMCHIEUCHrEONGCHIEUMCHI
  EUCHqPHIEUPH-PIEUPqKAPYEOUNPHIEUPHqSSANGHIEUHqYEORINHIEUHqKIYEOK-TIKEUTqNIEUN-SIOSwCIEUCwHIEUHqT
  IKEUT-RIEULqFILLERhJUNGSEONG_FILLERrAsErYAtErEOsrYEOtrOrWAtErOErYOrUrWEOtsIrYUrEUrYIrIrA-OtUrYA-
  OuYOrEO-OuUuEUrYEO-OvUrO-EOutYEtOtUrYO-YAwEvEOuOuIrU-AuEtEO-EUtYEtUrYU-AuEOvuYEOwuUuIrEU-UuEUrYI
  -UrI-AtYAtOtUtEUtARAEArARAEAw-EOxUxIrSSANGARAEArA-EUrYA-UsEO-YArO-YAvEiONGSEONG_KIYEOKrSSANGKIYE
  OKrKIYEOK-SIOSrNIEUNw-CIEUCxHIEUHrTIKEUTrRIEULw-KIYEOKxMIEUMxPIEUPxSIOSxTHIEUTHxPHIEUPHxHIEUHrMI
  EUMrPIEUPw-SIOSrSIOSsSANGSIOSrIEUNGrCIEUCsHIEUCHrKHIEUKHrTHIEUTHrPHIEUPHrHIEUHrKIYEOK-RIEULySIOS
  -KIYEOKrNIEUN-KIYEOKxTIKEUTxSIOSxPANSIOSxTHIEUTHrTIKEUT-KIYEOKyRIEULrRIEUL-KIYEOK-SIOSxNIEUNxTIK
  EUT&-HIEUHrSSANGRIEULrRIEUL-MIEUM-KIYEOK&SIOSxPIEUP-SIOS&HIEUHxKAPYEOUNPIEUPxSSANGSIOSxPANSIOSxK
  HIEUKHxYEORINHIEUHrMIEUM-KIYEOKxRIEULxPIEUPxSIOSySANGSIOSxPANSIOSxCHIEUCHxHIEUHrKAPYEOUNMIEUMrPI
  EUP-RIEULxPHIEUPHxHIEUHrKAPYEOUNPIEUPrSIOS-KIYEOKwTIKEUTwRIEULwPIEUPrPANSIOSrIEUNG-KIYEOKxSSANGK
  IYEOKrSSANGIEUNGrIEUNG-KHIEUKHrYESIEUNGz-SIOS!PANSIOSrPHIEUPH-PIEUPrKAPYEOUNPHIEUPHrHIEUH-NIEUNx
  RIEULxMIEUMxPIEUPrYEORINHIEUHrKIYEOK-NIEUNyPIEUPyCHIEUCHyKHIEUKHyHIEUHrSSANGNIEUNaETHIOPIC_SYLLA
  BLE_HAtUtItAAtEEutOuAsLAtUtItAAtEEutOtWAsHHAuUuIuAAuEEvuOuWAsMAtUtItAAtEEutOtWAsSZAuUuIuAAuEEvuO
  uWAsRAtUtItAAtEEutOtWAsSAtUtItAAtEEutOtWAtHAuUuIuAAuEEvuOuWAsQAtUtItAAtEEutOuAtWA=124AuIuAAuEEv=
  1250tHAuUuIuAAuEEvuO=1258uWA=125AvIvAAvEEw=1260sBAtUtItAAtEEutOtWAsVAtUtItAAtEEutOtWAsTAtUtItAAt
  EEutOtWAsCAtUtItAAtEEutOtWAsXAtUtItAAtEEutOuAtWA=128AuIuAAuEEv=1290sNAtUtItAAtEEutOtWAtYAuUuIuAA
  uEEvuOuWAsGLOTTAL_A!U!I!AA!EE$!O!WAsKAtUtItAAtEEutOuAtWA=12B2uIuAAuEEv=12B8tXAuUuIuAAuEEvuO=12C0
  uWA=12C2vIvAAvEEw=12C8sWAtUtItAAtEEutOuAsPHARYNGEAL_A&U&I&AA&EE*&O=12D8sZAtUtItAAtEEutOtWAtHAuUu
  IuAAuEEvuOuWAsYAtUtItAAtEEutOuAsDAtUtItAAtEEutOtWAtDAuUuIuAAuEEvuOuWAsJAtUtItAAtEEutOtWAsGAtUtIt
  AAtEEutOuAtWA=1312uIuAAuEEv=1318tGAuUuIuAAuEEvuOuWAAsTHAuUuIuAAuEEvuOuWAsCHAuUuIuAAuEEvuOuWAsPHA
  uUuIuAAuEEvuOuWAsTSAuUuIuAAuEEvuOuWAtZAuUuIuAAuEEvuOvAsFAtUtItAAtEEutOtWAsPAtUtItAAtEEutOtWAsRYA
  sMYAsFYA=135DjCOMBINING_GEMINATION/VOWEL_LENGTH_MARKtVOWEL_LENGTH_MARKtGEMINATION_MARKjSECTION_M
  ARKjWORDSPACEjFULL_STOPjCOMMAjSEMICOLONjCOLONjPREFACE_COLONjQUESTION_MARKjPARAGRAPH_SEPARATORjDI
  GIT_ONEpTWOqHREEpFOURqIVEpSIXqEVENpEIGHTpNINEjNUMBER_TENrWENTYrHIRTYqFORTYrIFTYqSIXTYrEVENTYqEIG
  HTYqNINETYqHUNDREDqTEN_THOUSAND=1380jSYLLABLE_SEBATBEIT_MWAsMWIuEEvsSEBATBEIT_BWAsBWIuEEvsSEBATB
  EIT_FWAsFWIuEEvsSEBATBEIT_PWAsPWIuEEvjTONAL_MARK_YIZETuDERETuRIKRIKuSHORT_RIKRIKuDIFATuKENATuCHI
  RETuHIDETuDERET-HIDETuKURT=13A0aCHEROKEE:AqEqIqOqUqVqGAqKAqGErIrOrUrVqHArErIrOrUrVqLArErIrOrUrVq
  MArErIrOrUqNAqHNAqNAHrErIrOrUrVqQUAsEsIsOsUsVqSArrErIrOrUrVqDAqTAqDEqTEqDIqTIqDOrUrVrLAqTLAsEsIs
  OsUsVrSAsEsIsOsUsVqWArErIrOrUrVqYArErIrOrUrVqMV=13F8j):YExIxOxUxVwMV=1400bANADIAN_SYLLABICS_HYPH
  ENtEtAAItIuItOuOtY-CREE_OOtCARRIER_EE$ItAuAtWEvST-CREE_WEuIuEST-CREE_WIuIIuEST-CREE_WIIuOuEST-CR
  EE_WOuOOuEST-CREE_WOOtNASKAPI_WOOtWAuEST-CREE_WAuAAuEST-CREE_WAAtNASKAPI_WAAtAItY-CREE_WtGLOTTAL
  _STOPtFINAL_ACUTEzGRAVEzBOTTOM_HALF_RINGzTOP_HALF_RINGzRIGHT_HALF_RING$NGzDOUBLE_ACUTE,SHORT_VER
  TICAL_STROKESzMIDDLE_DOTzSHORT_HORIZONTAL_STROKEzPLUSzDOWN_TACKtENtINtONtANtPEuAAIuIvIuOvOtY-CRE
  E_POOtCARRIER_HEE%ItPAvAuWEtWEST-CREE_PWEtPWItWEST-CREE_PWItPWIItWEST-CREE_PWIItPWOtWEST-CREE_PW
  OtPWOOtWEST-CREE_PWOOtPWAtWEST-CREE_PWAtPWAAtWEST-CREE_PWAAtY-CREE_PWAAtPtWEST-CREE_PtCARRIER_Ht
  TEuAAIuIvIuOvOtY-CREE_TOOtCARRIER_DEE%ItTAvAuWEtWEST-CREE_TWEtTWItWEST-CREE_TWItTWIItWEST-CREE_T
  WIItTWOtWEST-CREE_TWOtTWOOtWEST-CREE_TWOOtTWAtWEST-CREE_TWAtTWAAtWEST-CREE_TWAAtNASKAPI_TWAAtTuT
  EvIvOvAtKEuAAIuIvIuOvOtY-CREE_KOOtKAvAuWEtWEST-CREE_KWEtKWItWEST-CREE_KWItKWIItWEST-CREE_KWIItKW
  OtWEST-CREE_KWOtKWOOtWEST-CREE_KWOOtKWAtWEST-CREE_KWAtKWAAtWEST-CREE_KWAAtNASKAPI_KWAAtKuWtSOUTH
  -SLAVEY_KEH.IH.OH.AHtCEuAAIuIvIuOvOtY-CREE_COOtCAvAuWEtWEST-CREE_CWEtCWItWEST-CREE_CWItCWIItWEST
  -CREE_CWIItCWOtWEST-CREE_CWOtCWOOtWEST-CREE_CWOOtCWAtWEST-CREE_CWAtCWAAtWEST-CREE_CWAAtNASKAPI_C
  WAAtCtSAYISI_THtMEuAAIuIvIuOvOtY-CREE_MOOtMAvAuWEtWEST-CREE_MWEtMWItWEST-CREE_MWItMWIItWEST-CREE
  _MWIItMWOtWEST-CREE_MWOtMWOOtWEST-CREE_MWOOtMWAtWEST-CREE_MWAtMWAAtWEST-CREE_MWAAtNASKAPI_MWAAtM
  tWEST-CREE_MtMHtATHAPASCAN_MtSAYISI_MtNEuAAIuIvIuOvOtY-CREE_NOOtNAvAuWEtWEST-CREE_NWEtNWAtWEST-C
  REE_NWAtNWAAtWEST-CREE_NWAAtNASKAPI_NWAAutCARRIER_NGtNHtLEuAAIuIvIuOvOtY-CREE_LOOtLAvAuWEtWEST-C
  REE_LWEtLWItWEST-CREE_LWItLWIItWEST-CREE_LWIItLWOtWEST-CREE_LWOtLWOOtWEST-CREE_LWOOtLWAtWEST-CRE
  E_LWAtLWAAtWEST-CREE_LWAAtLtWEST-CREE_LtMEDIAL_LtSEuAAIuIvIuOvOtY-CREE_SOOtSAvAuWEtWEST-CREE_SWE
  tSWItWEST-CREE_SWItSWIItWEST-CREE_SWIItSWOtWEST-CREE_SWOtSWOOtWEST-CREE_SWOOtSWAtWEST-CREE_SWAtS
  WAAtWEST-CREE_SWAAtNASKAPI_SWAAtStATHAPASCAN_StSWtBLACKFOOT_StMOOSE-CREE_SKtNASKAPI_SKW%-W%PWA%T
  WA%KWA%CWAtSHEvIwIvOwOvAwAvWEtWEST-CREE_SHWEtSHWItWEST-CREE_SHWItSHWIItWEST-CREE_SHWIItSHWOtWEST
  -CREE_SHWOtSHWOOtWEST-CREE_SHWOOtSHWAtWEST-CREE_SHWAtSHWAAtWEST-CREE_SHWAAtSHtYEuAAIuIvIuOvOu-CR
  EE_YOOuAvAuWEtWEST-CREE_YWEtYWItWEST-CREE_YWItYWIItWEST-CREE_YWIItYWOtWEST-CREE_YWOtYWOOtWEST-CR
  EE_YWOOtYWAtWEST-CREE_YWAtYWAAtWEST-CREE_YWAAtNASKAPI_YWAAtYtBIBLE-CREE_YtWEST-CREE_YtSAYISI_YIt
  REu-CREE_REtWEST-CREE_LEtRAAIuIvIuOvOtWEST-CREE_LOtRAvAtWEST-CREE_LAtRWAAtWEST-CREE_RWAAtRtWEST-
  CREE_RtMEDIAL_RtFEuAAIuIvIuOvOuAvAuWAAtWEST-CREE_FWAAtFtTHEtN-CREE_THEtTHItN-CREE_THItTHIItN-CRE
  E_THIItTHOwOvAwAvWAAtWEST-CREE_THWAAtTHuTHEwIwOwAwuYEvIvOvAtNUNAVIK_HE%I&I%O&O%A&A%yUT_HtHKtQAAI
  uIvIuOvOuAvAutTLHEwIwOwAtWEST-CREE_RE*I*O*AtNGAAIvIwIvOwOvAwAvuNGtSAYISI_SHE%I%O%AtWOODS-CREE_TH
  E,I,O,A,tLHIwIvOwOvAwAvtTH-CREE_THE&I*I&O*O&A*A&tAIVILIK_BtBLACKFOOT_E&I&O&A&WE*I*O*A&NE*I*O*A&K
  E*I*O*AtSAYISI_HE$I$O$AtCARRIER_GHU&O&E*E&I&A$RU%O%E&E%I%A$WU%O%E&E%I%A$HWU&O&E*E&I&A$THU&O&E*E&
  I&A%TU&O&E*E&I&A$PU%O%E&E%I%A%$GU%O%E&E%I%A$KHU&O&E*E&I&A%KU&O&E*E&I&A&$NU%O%E&E%I%A$MU%O%E&E%I%
  A$YU%O%E&E%I%A$JUtSAYISI_JUtCARRIER_JO%E&E%ItSAYISI_JItCARRIER_JA%JU&O&E*E&I&A$LU%O%E&E%I%A$DLU&
  O&E*E&I&A$LHU&O&E*E&I&A$TLHU*O*E+E*I*A&U&O&E*E&I&A$ZU%O%E&E%I%A%$INITIAL_Z$DZU&O&E*E&I&A$SU%O%E&
  E%I%A%HU&O&E*E&I&A&$TSU&O&E*E&I&A$CHU&O&E*E&I&A$TTSU*O*E+E*I*AuHI_SIGNtFULL_STOPtQAItNGAIuNGIxIw
  OxOwAxAtWOODS-CREE_THWEE.I;I.O;O.A;A*FINAL_THtBLACKFOOT_WaOGHAM_SPACE_MARKgLETTER_BEITHnLUISnFEA
  RNnSAILnNIONnUATHnDAIRnTINNEnCOLLoEIRTnMUINnGORTnNGEADALnSTRAIFnRUISnAILMnONNnURnEADHADHnIODHADH
  nEABHADHnORnUILLEANNnIFINnEAMHANCHOLLnPEITHgFEATHER_MARKgREVERSED_FEATHER_MARK=16A0aRUNIC:FEHU_F
  EOH_FE_FnVnURUZ_UR_UnYRonWnTHURISAZ_THURS_THORNnETHnANSUZ_AnOS_OnAC_AoESCnLONG-BRANCH-OSS_OnSHOR
  T-TWIG-OSS_OnOoEoNnRAIDO_RAD_REID_RnKAUNAnCENnKAUN_KnGnENGnGEBO_GYFU_GoARnWUNJO_WYNN_WnHAGLAZ_Hp
  EGL_HnLONG-BRANCH-HAGALL_HnSHORT-TWIG-HAGALL_HnNAUDIZ_NYD_NAUD_NnSHORT-TWIG-NAUD_NnDOTTED-NnISAZ
  _IS_ISS_InEnJERAN_JnGERnLONG-BRANCH-AR_AEnSHORT-TWIG-AR_AnIWAZ_EOHnPERTHO_PEORTH_PnALGIZ_EOLHXnS
  OWILO_SoIGEL_LONG-BRANCH-SOL_SoHORT-TWIG-SOL_SnCnZnTIWAZ_TIR_TYR_TnSHORT-TWIG-TYR_TnDnBERKANAN_B
  EORC_BJARKAN_BnSHORT-TWIG-BJARKAN_BnDOTTED-PnOPEN-PnEHWAZ_EH_EnMANNAZ_MAN_MnLONG-BRANCH-MADR_MnS
  HORT-TWIG-MADR_MnLAUKAZ_LAGU_LOGR_LnDOTTED-LnINGWAZqnDAGAZ_DAEG_DnOTHALAN_ETHEL_OnEARnIORnCWEORT
  HoALCoEALCnSTANnLONG-BRANCH-YRnSHORT-TWIG-YRnICELANDIC-YRnQnXgSINGLE_PUNCTUATIONgMULTIPLE_PUNCTU
  ATIONgCROSS_PUNCTUATIONgARLAUG_SYMBOLgTVIMADUR_SYMBOLgBELGTHOR_SYMBOLgLETTER_KnSHnOOnFRANKS_CASK
  ET_OS$IS$EH$AC%ESC=1700aTAGALOG:ApIpUpKApGApNGApTApDApNApPApBApMApYApRApLApWApSApHAiVOWEL_SIGN_I
  tUiSIGN_VIRAMAnPAMUDPOD=171FiLETTER_ARCHAIC_RAaHANUNOO:ApIpUpKApGApNGApTApDApNApPApBApMApYApRApL
  ApWApSApHAiVOWEL_SIGN_ItUiSIGN_PAMUDPODaPHILIPPINE_SINGLE_PUNCTUATIONlDOUBLE_PUNCTUATION=1740aBU
  HID:AnInUnKAnGAnNGAnTAnDAnNAnPAnBAnMAnYAnRAnLAnWAnSAnHAgVOWEL_SIGN_IrU=1760aTAGBANWA:AqIqUqKAqGA
  qNGAqTAqDAqNAqPAqBAqMAqYA=176EqLAqWAqSA=1772jVOWEL_SIGN_IuU=1780aKHMER:KAoHAoOoHOnNGOnCAoHAoOoHO
  nNYOnDAnTTHAnDOnTTHOnNNOnTAoHAoOoHOnNOnBAnPHAoOoHOnMOnYOnROnLOnVOnSHAoSOoAnHAnLAnQAgINDEPENDENT_
  VOWEL_QAQ!AzI!IzU!K!U$VyRY!YyLY!YyQEzAIzOO_TYPE_ONE.TWOzAUgVOWEL_INHERENT_AQwAmSIGN_AArIsIrYsYrU
  sUsArOErYArIErErAEsIrOOrAUgSIGN_NIKAHITlREAHMUKlYUUKALEAPINTUlMUUSIKATOANlTRIISAPlBANTOClROBATlT
  OANDAKHIATlKAKABATlAHSDAlSAMYOK_SANNYAlVIRIAMlCOENGlBATHAMASATlKHANlBARIYOOSANlCAMNUC_PII_KUUHlL
  EK_TOOlBEYYALlPHNAEK_MUANlKOOMUUTgCURRENCY_SYMBOL_RIELgSIGN_AVAKRAHASANYAmTTHACAN=17E0gDIGIT_ZER
  OmONEmTWOnHREEmFOURnIVEmSIXnEVENmEIGHTmNINE=17F0gSYMBOL_LEK_ATTAK_SONxMUOYxPIIxBEIyUONxPRAM$-MUO
  Y%PII%BEI&UON=1800aMONGOLIAN_BIRGAkELLIPSISkCOMMAkFULL_STOPkCOLONkFOUR_DOTSkTODO_SOFT_HYPHENkSIB
  E_SYLLABLE_BOUNDARY_MARKERkMANCHU_COMMArFULL_STOPkNIRUGUkFREE_VARIATION_SELECTOR_ONE;TWO<HREEkVO
  WEL_SEPARATORkFREE_VARIATION_SELECTOR_FOURkDIGIT_ZEROqONEqTWOrHREEqFOURrIVEqSIXrEVENqEIGHTqNINE=
  1820kLETTER_ArErIrOrUrOErUErEErNArANGrBArPArQArGArMArLArSAsHArTArDArCHArJArYArRArWArFArKAsHArTSA
  rZArHAArZRArLHArZHIrCHIrTODO_LONG_VOWEL_SIGNwEwIwOwUwOEwUEwANGwBAwPAwQAwGAwMAwTAwDAwCHAwJAwTSAwY
  AwWAwKAwGAAwHAAwJIAwNIAwDZArSIBE_EwIxYwUExwANGwKAwGAwHAwPAwSHAwTAwDAwJAwFAwGAAwHAAwTSAwZAwRAAwCH
  AwZHArMANCHU_IyKAyRAyFAyZHArCHA@TWO_DOTS=1880rALI_GALI_ANUSVARA_ONE!VISARGA_ONE!DAMARU!UBADAMA!I
  NVERTED_UBADAMA!BALUDA!THREE_BALUDA!A!I!KA!NGA!CA!TTA%HA!DDA!NNA!TA!DA!PA$HA!SSA!ZHA$A!AHrTODO_A
  LI_GALI_TA+ZHArMANCHU_ALI_GALI_GHA.NGA.CA.JHA.TTA.DDHA.TA.DHA.SSA.CYA.ZHA;ArALI_GALI_HALF_U+YArM
  ANCHU_ALI_GALI_BHArALI_GALI_DAGALGArMANCHU_ALI_GALI_LHA=18B0aCANADIAN_SYLLABICS_OYtAYuAYtWAYtPOY
  uAYuWOYtTAYtKAYuWAYtMAYtNOYuAYtLAYtSOYuAYuHOYvAYvWOYtYOYuAYtRAYtNWItOJIBWAY_NWItNWIItOJIBWAY_NWI
  ItNWOtOJIBWAY_NWOtNWOOtOJIBWAY_NWOOtRWEEvIwIvOwOvAtOJIBWAY_P$T$K$C$M$N$S%HtEASTERN_WtWESTERN_WtF
  INAL_)_RINGzRAISED_DOTtR-CREE_RWEtWEST-CREE_LOO*AAtTHWEwAuTHWEwOOwAAuLHWEwOOtSAYISI_SHWE%OO!HOOt
  CARRIER_GWU$DENE_GEE$GAA%WAtSAYISI_JUUtCARRIER_JWAtBEAVER_DENE_L+RtCARRIER_DENTAL_S=1900aLIMBU_V
  OWEL-CARRIER_LETTERgLETTER_KAoHAnGAoHAnNGAnCAoHAnJAoHAnYANnTAoHAnDAoHAnNAnPAoHAnBAoHAnMAnYAnRAnL
  AnWAnSHAoSAoAnHAnGYANnTRA=1920gVOWEL_SIGN_ArIrUrEErAIrOOrAUrErOgSUBJOINED:YAxRAxWA=1930hMALL:KAt
  NGAtANUSVARAtTAtNAtPAtMAtRAtLAhIGN_MUKPHRENGlKEMPHRENGlSA-I=1940lLOO=1944gEXCLAMATION_MARKgQUEST
  ION_MARKgDIGIT_ZEROmONEmTWOnHREEmFOURnIVEmSIXnEVENmEIGHTmNINEaTAI_LE:KAoXAoNGAoTSAoSAoYAoTApHAoL
  AoPApHAoMAoFAoVAoHAoQAoKHAoTSHAoNAoAoIoEEpHoUoOOpoUEoEoAUEpI=1970oTONE-2t3t4t5t6=1980aNEW_TAI_LU
  E:HIGH_QAtLOW_QAtHIGH_KAyXAyNGAtLOW_KAxXAxNGAtHIGH_TSAySAyYAtLOW_TSAxSAxYAtHIGH_TAzHAyNAtLOW_TAy
  HAxNAtHIGH_PAzHAyMAtLOW_PAyHAxMAtHIGH_FAyVAyLAtLOW_FAxVAxLAtHIGH_HAyDAyBAtLOW_HAxDAxBAtHIGH_KVAy
  XVAtLOW_KVAxXVAtHIGH_SUAtLOW_SUA=19B0mVOWEL_SIGN_VOWEL_SHORTENERxAAxIIxUyUxExAExOyAxUExAYyAYxUYx
  OYyAYxUEYxIYmLETTER_FINAL_VzNG!zMzKzDzBmTONE_MARK-1w2=19D0mDIGIT_ZEROsONEsTWOtHREEsFOURtIVEsSIXt
  EVENsEIGHTsNINEmTHAM_DIGIT_ONE=19DEmSIGN_LAEuVaKHMER_SYMBOL_PATHAMASATnMUOY_KOETnPII_KOETnBEI_KO
  EToUON_KOETnPRAM_KOETr-MUOY_KOETsPII_KOETsBEI_KOETtUON_KOETnDAP_KOETq-MUOY_KOETrPII_KOETrBEI_KOE
  TsUON_KOETrPRAM_KOETnTUTEYASATnMUOY_ROCnPII_ROCnBEI_ROCoUON_ROCnPRAM_ROCr-MUOY_ROCsPII_ROCsBEI_R
  OCtUON_ROCnDAP_ROCq-MUOY_ROCrPII_ROCrBEI_ROCsUON_ROCrPRAM_ROCaBUGINESE:KAqGAqNGAsKAqPAqBAqMArPAq
  TAqDAqNArRAqCAqJAqNYAsCAqYAqRAqLAqVAqSAqAqHAjVOWEL_SIGN_IuUuEuOuAE=1A1EjPALLAWAjEND_OF_SECTIONaT
  AI_THAM:HIGH_KAwHAwXAqLOW_KAvXAvHAqNGAqHIGH_CAwHAqLOW_CAuSAuCHAqNYAqRATAqHIGH_RATHAqDAqLOW_RATHA
  qRANAqHIGH_TAwHAqLOW_TAvHAqNAqBAqHIGH_PAwHAvFAqLOW_PAuFAuPHAqMAqLOW_YAqHIGH_YAqRArUEqLArUEqWAqHI
  GH_SHAwSAwAvHAqLLAqAqLOW_HAqIrIqUrUqEEqOOqLAEqGREAT_SAjCONSONANT_SIGN_MEDIAL_RA+LAyLA_TANG_LAIjS
  IGN_MAI_KANG_LAIjCONSONANT_SIGN_FINAL_NGAyLOW_PAyHIGH_RATHA_OR_LOW_PAyMAyBAySA=1A60jSIGN_SAKOTjV
  OWEL_SIGN_AuMAI_SATuAAuTALL_AAuIvIuUEvUEvvUuOvA_BELOWvYuEuAEuOOuAIuTHAM_AIuOA_ABOVEjSIGN_MAI_KAN
  GoTONE-1t2oKHUEN_TONE-3z4z5oRA_HAAMoMAI_SAMoKHUEN-LUE_KARAN=1A7FjCOMBINING_CRYPTOGRAMMIC_DOTjHOR
  A_DIGIT_ZEROuONEuTWOvHREEuFOURvIVEuSIXvEVENuEIGHTuNINE=1A90jTHAM_DIGIT_ZEROuONEuTWOvHREEuFOURvIV
  EuSIXvEVENuEIGHTuNINE=1AA0jSIGN_WIANGtWAAKoSAWANoKEOWoHOYoDOKMAIoREVERSED_ROTATED_RANAoMAI_YAMOK
  oKAANsKUUoSATKAANvKUUoHANGoCAANG=1AB0aCOMBINING_DOUBLED_CIRCUMFLEX_ACCENTlIAERESIS-RINGkINFINITY
  kDOWNWARDS[kTRIPLE_DOTkX-X_BELOWkWIGGLY_LINE_BELOWkOPEN_MARK_BELOWkDOUBLE_OPEN_MARK_BELOWkLIGHT_
  CENTRALIZATION_STROKE_BELOWkSTRONG_CENTRALIZATION_STROKE_BELOWkPARENTHESES_ABOVEkDOUBLE_PARENTHE
  SES_ABOVEkPARENTHESES_BELOWwOVERLAYkLATIN_):W_BELOW&TURNED_W_BELOWlEFT_PARENTHESIS_ABOVE_LEFTkRI
  GHT_PARENTHESIS_ABOVE_RIGHTkLEFT_PARENTHESIS_BELOW_LEFTkRIGHT_PARENTHESIS_BELOW_RIGHTkSQUARE_BRA
  CKETS_ABOVEkNUMBER_SIGN_ABOVEkINVERTED_DOUBLE_ARCH_ABOVEkPLUS_SIGN_ABOVEkDOUBLE_PLUS_SIGN_ABOVE$
  BELOWkTRIPLE_ACUTE_ACCENTkLATIN_):INSULAR_G?R?T=1B00aBALINESE_SIGN_ULU_RICEMsCANDRAoCECEKoSURANG
  oBISAHjLETTER_AKARAv_TEDUNGqIKARAv_TEDUNGqUKARAv_TEDUNGqRA_REPAx_TEDUNGqLA_LENGAy_TEDUNGqEKARAqA
  IKARAqOKARAv_TEDUNGqKAs_MAHAPRANAqGAs_GORAqNGAqCAs_LACAqJAs_JERAqNYAqTA_LATIKtMURDA_MAHAPRANAqDA
  _MURDA_ALPAPRANAzMAHAPRANAqNA_RAMBATqTAs_TAWAqDAs_MADUqNAqPAs_KAPALqBAs_KEMBANGqMAqYAqRAqLAqWAqS
  A_SAGAvPAsqHAjSIGN_REREKANjVOWEL_SIGN_TEDUNGuULUx_SARIuSUKUy_ILUTuRA_REPA$_TEDUNGuLA_LENGA%_TEDU
  NGuTALING!_REPA$TEDUNG$REPA_TEDUNGuPEPETz_TEDUNGjADEG_ADEGjLETTER_KAF_SASAKrHOT_SASAKqTZIR_SASAK
  qEF_SASAKqVE_SASAKqZAL_SASAKqASYURA_SASAKrRCHAIC_JNYA=1B50jDIGIT_ZEROpONEpTWOqHREEpFOURqIVEpSIXq
  EVENpEIGHTpNINEjPANTIlMADAjWINDUjCARIK_PAMUNGKAHpSIKIpPARERENjPAMENENGjMUSICAL_SYMBOL_DONGzENGzU
  NGzANG%_SURANGzINGzAENGzEUNGzAING!NG_GEDEyCOMBINING_TEGEH;ENDEP;KEMPUL^LI;JEGOGAN;KEMPUL@JEGOGAN
  ^LI@JEGOGAN;BENDE;GONGyRIGHT-HAND_OPEN_DUG~DAG<CLOSED_TUK~D_TAKyLEFT-HAND_OPEN_PANG~UNG;CLOSED_P
  LAK~_PLUK;OPEN_PINGjPANTI_LANTANGlMADA_LANTANG=1B80aSUNDANESE_SIGN_PANYECEKsGLAYARtWISADkLETTER_
  ArIrUrAErOrEsUrKArQArGArNGArCArJArZArNYArTArDArNArPArFArVArBArMArYArRArLArWArSArXArHAkCONSONANT_
  SIGN_PAMINGKAL$NYAKRA&IKUkVOWEL_SIGN_PANGHULUyYUKUyAELAENGyOLONGxMEPETxNEULEUNGkSIGN_PAMAAEHpVIR
  AMAkCONSONANT_SIGN_PASANGAN_MA;WAkLETTER_KHArSYAkDIGIT_ZEROqONEqTWOrHREEqFOURrIVEqSIXrEVENqEIGHT
  qNINEkAVAGRAHAkLETTER_REUrLEUrBHArFINAL_KxMaBATAK:AnSIMALUNGUN_AnHAnSIMALUNGUN_HAnMANDAILING_HAn
  BAnKARO_BAnPAnSIMALUNGUN_PAnNAnMANDAILING_NAnWAnSIMALUNGUN_WAnPAKPAK_WAnGAnSIMALUNGUN_GAnJAnDAnR
  AnSIMALUNGUN_RAnMAnSIMALUNGUN_MAoOUTHERN_TAnNORTHERN_TAnSAoIMALUNGUN_SAnMANDAILING_SAnYAnSIMALUN
  GUN_YAnNGAnLAnSIMALUNGUN_LAnNYAnCAnNDAnMBAnInUgSIGN_TOMPIgVOWEL_SIGN_ErPAKPAK_ErEErIrKARO_IrOrKA
  RO_OrUs_FOR_SIMALUNGUN_SAgCONSONANT_SIGN_NGvHgPANGOLATjONGONAN=1BFCgSYMBOL_BINDU_NA_METEKtPINARB
  ORAStJUDULtPANGOLATaLEPCHA:KApLApHAoGApLAoNGAoCApHAoJAoNYAoTApHAoDAoNAoPApLApHAoFApLAoBApLAoMApL
  AoTSAqHAoDZAoYAoRAoLAoHApLAoVAoSApHAoWAoAhSUBJOINED:YAyRAhVOWEL_SIGN_AAsIsOtOsUtUsEhCONSONANT_SI
  GN_KwMwLwNwPwRwTwNYIN-DOwKANGhSIGN_RANmNUKTA=1C3BhPUNCTUATION_TA-ROLtNYET_THYOOM_TA-ROLtCER-WAtT
  SHOOK_CER-WAzhDIGIT_ZEROnONEnTWOoHREEnFOURoIVEnSIXoEVENnEIGHTnNINE=1C4DhLETTER_TTAqHAoDDAaOL_CHI
  KI_DIGIT_ZEROpONEpTWOqHREEpFOURqIVEpSIXqEVENpEIGHTpNINEjLETTER_LAqATrGrNGrLqLAAqAAKsJsMsWqLIqISr
  HrNYrRqLUqUCrDrNNrYqLEqEPrDDrNrRRqLOqOTTrBrVrHjMU_TTUDDAGjGAAHLAA_TTUDDAAGjMU-GAAHLAA_TTUDDAAGjR
  ELAAjPHAARKAAjAHADjPUNCTUATION_MUCAADvDOUBLE_MUCAADaCYRILLIC_):ROUNDED_VEwLONG-LEGGED_DEwNARROW_
  OwWIDE_ESwTALL_TExHREE-LEGGED_TExALL_HARD_SIGN$YATwUNBLENDED_UK=1C90aGEORGIAN_MTAVRULI_(:AN.BAN.
  GAN.DON.EN.VIN.ZEN.TAN.IN.KAN.LAS.MAN.NAR.ON.PAR.ZHAR.RAE.SAN.TAR.UN.PHAR.KHAR.GHAN.QAR.SHIN.CHI
  N;AN.JIL.CIL;HAR.XAN.JHAN.HAE;E;IE.WE.HAR;OE.FI.YN.ELIFI.TURNED_GAN.AIN=1CBD;EN.HARD_SIGN.LABIAL
  _SIGNaSUNDANESE_PUNCTUATION_BINDU_SURYA%PANGLONG&URNAMA%CAKRA%LEU_SATANGA%KA_SATANGA%DA_SATANGA%
  BA_SATANGA=1CD0aVEDIC_TONE_KARSHANAlSHARAlPRENKHAgSIGN_NIHSHVASAlYAJURVEDIC_MIDLINE_SVARITAgTONE
  _YAJURVEDIC_AGGRAVATED_INDEPENDENT_SVARITAwINDEPENDENT_SVARITAwKATHAKA_INDEPENDENT_SVARITAlCANDR
  A_BELOWlYAJURVEDIC_KATHAKA_INDEPENDENT_SVARITA_SCHROEDERlDOUBLE_SVARITAlTRIPLE_SVARITAlKATHAKA_A
  NUDATTAlDOT_BELOWlTWO_DOTS_BELOWmHREE_DOTS_BELOWlRIGVEDIC_KASHMIRI_INDEPENDENT_SVARITAlATHARVAVE
  DIC_INDEPENDENT_SVARITAgSIGN_VISARGA_SVARITAtUDATTAlREVERSED_VISARGA_UDATTAlVISARGA_ANUDATTAlREV
  ERSED_VISARGA_ANUDATTAlVISARGA_UDATTA@TAILtANUDATTA@TAILlANUSVARA_ANTARGOMUKHAuBAHIRGOMUKHAuVAMA
  GOMUKHA+@TAILlTIRYAKlHEXIFORM_LONG_ANUSVARAlLONG_ANUSVARAlRTHANG_LONG_ANUSVARAlANUSVARA_UBHAYATO
  _MUKHAmRDHAVISARGAlROTATED_ARDHAVISARGAgTONE_CANDRA_ABOVEgSIGN_JIHVAMULIYAlUPADHMANIYAlATIKRAMAg
  TONE_RING_ABOVElDOUBLE_RING_ABOVEgSIGN_DOUBLE_ANUSVARA_ANTARGOMUKHA=1D00aLATIN:)_(_A%Eg):TURNED_
  AEgLETTER_)_(_BARRED_B$C$D$ETH%g):TURNED_OPEN_E!IgLETTER_)_(_J$K$L@STROKE$M$REVERSED_N$O%PEN_Og)
  :SIDEWAYS_O&PEN_O&@STROKEtTURNED_OEgLETTER_)_(_OUg):TOP_HALF_OtBOTTOM_HALF_OgLETTER_)_(_P$REVERS
  ED_R$TURNED_R%$Ug):SIDEWAYS_U%DIAERESIZED_U%TURNED_MgLETTER_)_(_V$W$Z$EZHnVOICED_LARYNGEAL_SPIRA
  NTnAINaGREEK:)_(_GAMMA$LAMDA$PI$RHO$PSIaCYRILLIC:)_(_ELaMODIFIER:(_AzEyBzARRED_ByDyEyREVERSED_Ey
  GyHyIyJyKyLyMyNyREVERSED_NyOzUyPyRyTyUyWq)_AwTURNED_AwALPHAwTURNED_AEwBwDwEwSCHWAwOPEN_EwTURNED_
  OPEN_EwGwTURNED_IwKwMwENGwOxPEN_OwTOP_HALF_OwBOTTOM_HALF_OwPwTwUwSIDEWAYS_UwTURNED_MwVwAINwBETAw
  GREEK_GAMMAwDELTAwGREEK_PHIwCHIaLATIN_SUBSCRIPT_):I&R&U&VaGREEK_SUBSCRIPT_):BETA&GAMMA&RHO&PHI&C
  HIaLATIN_):UEtB@MIDDLE_TILDEtD@MIDDLE_TILDEtF@MIDDLE_TILDEtM@MIDDLE_TILDEtN@MIDDLE_TILDEtP@MIDDL
  E_TILDEtR@MIDDLE_TILDE!FISHHOOK/MIDDLE_TILDEtS@MIDDLE_TILDEtT@MIDDLE_TILDEtZ@MIDDLE_TILDEtTURNED
  _GaMODIFIER:CYRILLIC_ENaLATIN_):INSULAR_GtTH@STRIKETHROUGHm(:I@STROKEmLETTER_IOTA@STROKEtP@STROK
  Em(:U@STROKEmLETTER_UPSILON@STROKEtB@PALATAL_HOOKtD@PALATAL_HOOKtF@PALATAL_HOOKtG@PALATAL_HOOKtK
  @PALATAL_HOOKtL@PALATAL_HOOKtM@PALATAL_HOOKtN@PALATAL_HOOKtP@PALATAL_HOOKtR@PALATAL_HOOKtS@PALAT
  AL_HOOKtESH@PALATAL_HOOKtV@PALATAL_HOOKtX@PALATAL_HOOKtZ@PALATAL_HOOKtA@RETROFLEX_HOOKuLPHA@RETR
  OFLEX_HOOKtD@HOOK/TAILtE@RETROFLEX_HOOKtOPEN_E@RETROFLEX_HOOKtREVERSED_OPEN_E@RETROFLEX_HOOKtSCH
  WA@RETROFLEX_HOOKtI@RETROFLEX_HOOKtOPEN_O@RETROFLEX_HOOKtESH@RETROFLEX_HOOKtU@RETROFLEX_HOOKtEZH
  @RETROFLEX_HOOKaMODIFIER:)_TURNED_ALPHAwCx@CURLwETHwREVERSED_OPEN_EwFwDOTLESS_J@STROKEwSCRIPT_Gw
  TURNED_HwI@STROKExOTAw(_I+@STROKEwJ@CROSSED-TAILwL@RETROFLEX_HOOK&PALATAL_HOOKw(_LwM@HOOKwTURNED
  _M@LONG_LEGwN@LEFT_HOOK&RETROFLEX_HOOKw(_NwBARRED_OwPHIwS@HOOKwESHwT@PALATAL_HOOKwU_BARxPSILONw(
  _UwV@HOOKwTURNED_VwZx@RETROFLEX_HOOK&CURLwEZHwTHETAaCOMBINING_DOTTED_GRAVE_ACCENTrACUTE_ACCENTkS
  NAKE_BELOWlUSPENSION_MARKkMACRON-ACUTEkGRAVE-MACRONkMACRON-GRAVEkACUTE-MACRONkGRAVE-ACUTE-GRAVEk
  ACUTE-GRAVE-ACUTEkLATIN_):R_BELOWkBREVE-MACRONkMACRON-BREVEkDOUBLE_CIRCUMFLEX_ABOVEkOGONEK_ABOVE
  kZIGZAG_BELOWkIS_BELOWkUR_ABOVElS_ABOVEkLATIN_):FLATTENED_OPEN_A_ABOVE&AE*O*V&C_CEDILLA&INSULAR_
  D&ETH&GqLETTER_)_(_Gq):K&LqLETTER_)_(_L?Mq):NqLETTER_)_(_N?Rq):R_ROTUNDA&S&LONG_S&Z&ALPHA&B*ETA&
  SCHWA&F&L@DOUBLE_MIDDLE_TILDE&O@LIGHT_CENTRALIZATION_STROKE&P&ESH&U@LIGHT_CENTRALIZATION_STROKE&
  W&A@DIAERESIS&O@DIAERESIS&U@DIAERESISkUP_TACK_ABOVEkKAVYKA_ABOVE_RIGHTxLEFTkDOT_ABOVE_LEFTkWIDE_
  INVERTED_BRIDGE_BELOWkDOT_BELOW_LEFTlELETION_MARKlOUBLE_INVERTED_BREVE_BELOWkALMOST_EQUAL_TO_BEL
  OWkLEFT[HEAD_ABOVEkRIGHT[HEAD/DOWN[HEAD_BELOWaLATIN_(:A@RING_BELOWg):A@RING_BELOWg(:B@DOT_ABOVEg
  ):B@DOT_ABOVEg(:B@DOT_BELOWg):B@DOT_BELOWg(:B@LINE_BELOWg):B@LINE_BELOWg(:C@CEDILLA/ACUTEg):C@CE
  DILLA/ACUTEg(:D@DOT_ABOVEg):D@DOT_ABOVEg(:D@DOT_BELOWg):D@DOT_BELOWg(:D@LINE_BELOWg):D@LINE_BELO
  Wg(:D@CEDILLAg):D@CEDILLAg(:D@CIRCUMFLEX_BELOWg):D@CIRCUMFLEX_BELOWg(:E@MACRON/GRAVEg):E@MACRON/
  GRAVEg(:E@MACRON/ACUTEg):E@MACRON/ACUTEg(:E@CIRCUMFLEX_BELOWg):E@CIRCUMFLEX_BELOWg(:E@TILDE_BELO
  Wg):E@TILDE_BELOWg(:E@CEDILLA/BREVEg):E@CEDILLA/BREVEg(:F@DOT_ABOVEg):F@DOT_ABOVEg(:G@MACRONg):G
  @MACRONg(:H@DOT_ABOVEg):H@DOT_ABOVEg(:H@DOT_BELOWg):H@DOT_BELOWg(:H@DIAERESISg):H@DIAERESISg(:H@
  CEDILLAg):H@CEDILLAg(:H@BREVE_BELOWg):H@BREVE_BELOWg(:I@TILDE_BELOWg):I@TILDE_BELOWg(:I@DIAERESI
  S/ACUTEg):I@DIAERESIS/ACUTEg(:K@ACUTEg):K@ACUTEg(:K@DOT_BELOWg):K@DOT_BELOWg(:K@LINE_BELOWg):K@L
  INE_BELOWg(:L@DOT_BELOWg):L@DOT_BELOWg(:L@DOT_BELOW/MACRONg):L@DOT_BELOW/MACRONg(:L@LINE_BELOWg)
  :L@LINE_BELOWg(:L@CIRCUMFLEX_BELOWg):L@CIRCUMFLEX_BELOWg(:M@ACUTEg):M@ACUTEg(:M@DOT_ABOVEg):M@DO
  T_ABOVEg(:M@DOT_BELOWg):M@DOT_BELOWg(:N@DOT_ABOVEg):N@DOT_ABOVEg(:N@DOT_BELOWg):N@DOT_BELOWg(:N@
  LINE_BELOWg):N@LINE_BELOWg(:N@CIRCUMFLEX_BELOWg):N@CIRCUMFLEX_BELOWg(:O@TILDE/ACUTEg):O@TILDE/AC
  UTEg(:O@TILDE/DIAERESISg):O@TILDE/DIAERESISg(:O@MACRON/GRAVEg):O@MACRON/GRAVEg(:O@MACRON/ACUTEg)
  :O@MACRON/ACUTEg(:P@ACUTEg):P@ACUTEg(:P@DOT_ABOVEg):P@DOT_ABOVEg(:R@DOT_ABOVEg):R@DOT_ABOVEg(:R@
  DOT_BELOWg):R@DOT_BELOWg(:R@DOT_BELOW/MACRONg):R@DOT_BELOW/MACRONg(:R@LINE_BELOWg):R@LINE_BELOWg
  (:S@DOT_ABOVEg):S@DOT_ABOVEg(:S@DOT_BELOWg):S@DOT_BELOWg(:S@ACUTE/DOT_ABOVEg):S@ACUTE/DOT_ABOVEg
  (:S@CARON/DOT_ABOVEg):S@CARON/DOT_ABOVEg(:S@DOT_BELOW/DOT_ABOVEg):S@DOT_BELOW/DOT_ABOVEg(:T@DOT_
  ABOVEg):T@DOT_ABOVEg(:T@DOT_BELOWg):T@DOT_BELOWg(:T@LINE_BELOWg):T@LINE_BELOWg(:T@CIRCUMFLEX_BEL
  OWg):T@CIRCUMFLEX_BELOWg(:U@DIAERESIS_BELOWg):U@DIAERESIS_BELOWg(:U@TILDE_BELOWg):U@TILDE_BELOWg
  (:U@CIRCUMFLEX_BELOWg):U@CIRCUMFLEX_BELOWg(:U@TILDE/ACUTEg):U@TILDE/ACUTEg(:U@MACRON/DIAERESISg)
  :U@MACRON/DIAERESISg(:V@TILDEg):V@TILDEg(:V@DOT_BELOWg):V@DOT_BELOWg(:W@GRAVEg):W@GRAVEg(:W@ACUT
  Eg):W@ACUTEg(:W@DIAERESISg):W@DIAERESISg(:W@DOT_ABOVEg):W@DOT_ABOVEg(:W@DOT_BELOWg):W@DOT_BELOWg
  (:X@DOT_ABOVEg):X@DOT_ABOVEg(:X@DIAERESISg):X@DIAERESISg(:Y@DOT_ABOVEg):Y@DOT_ABOVEg(:Z@CIRCUMFL
  EXg):Z@CIRCUMFLEXg(:Z@DOT_BELOWg):Z@DOT_BELOWg(:Z@LINE_BELOWg):Z@LINE_BELOWtH@LINE_BELOWtT@DIAER
  ESIStW@RING_ABOVEtY@RING_ABOVEtA@RIGHT_HALF_RINGtLONG_S@DOT_ABOVE,IAGONAL_STROKE+HIGH_STROKEg(:S
  HARP_Sg):DELTAg(:A@DOT_BELOWg):A@DOT_BELOWg(:A@HOOK_ABOVEg):A@HOOK_ABOVEg(:A@CIRCUMFLEX/ACUTEg):
  A@CIRCUMFLEX/ACUTEg(:A@CIRCUMFLEX/GRAVEg):A@CIRCUMFLEX/GRAVEg(:A@CIRCUMFLEX/HOOK_ABOVEg):A@CIRCU
  MFLEX/HOOK_ABOVEg(:A@CIRCUMFLEX/TILDEg):A@CIRCUMFLEX/TILDEg(:A@CIRCUMFLEX/DOT_BELOWg):A@CIRCUMFL
  EX/DOT_BELOWg(:A@BREVE/ACUTEg):A@BREVE/ACUTEg(:A@BREVE/GRAVEg):A@BREVE/GRAVEg(:A@BREVE/HOOK_ABOV
  Eg):A@BREVE/HOOK_ABOVEg(:A@BREVE/TILDEg):A@BREVE/TILDEg(:A@BREVE/DOT_BELOWg):A@BREVE/DOT_BELOWg(
  :E@DOT_BELOWg):E@DOT_BELOWg(:E@HOOK_ABOVEg):E@HOOK_ABOVEg(:E@TILDEg):E@TILDEg(:E@CIRCUMFLEX/ACUT
  Eg):E@CIRCUMFLEX/ACUTEg(:E@CIRCUMFLEX/GRAVEg):E@CIRCUMFLEX/GRAVEg(:E@CIRCUMFLEX/HOOK_ABOVEg):E@C
  IRCUMFLEX/HOOK_ABOVEg(:E@CIRCUMFLEX/TILDEg):E@CIRCUMFLEX/TILDEg(:E@CIRCUMFLEX/DOT_BELOWg):E@CIRC
  UMFLEX/DOT_BELOWg(:I@HOOK_ABOVEg):I@HOOK_ABOVEg(:I@DOT_BELOWg):I@DOT_BELOWg(:O@DOT_BELOWg):O@DOT
  _BELOWg(:O@HOOK_ABOVEg):O@HOOK_ABOVEg(:O@CIRCUMFLEX/ACUTEg):O@CIRCUMFLEX/ACUTEg(:O@CIRCUMFLEX/GR
  AVEg):O@CIRCUMFLEX/GRAVEg(:O@CIRCUMFLEX/HOOK_ABOVEg):O@CIRCUMFLEX/HOOK_ABOVEg(:O@CIRCUMFLEX/TILD
  Eg):O@CIRCUMFLEX/TILDEg(:O@CIRCUMFLEX/DOT_BELOWg):O@CIRCUMFLEX/DOT_BELOWg(:O@HORN/ACUTEg):O@HORN
  /ACUTEg(:O@HORN/GRAVEg):O@HORN/GRAVEg(:O@HORN/HOOK_ABOVEg):O@HORN/HOOK_ABOVEg(:O@HORN/TILDEg):O@
  HORN/TILDEg(:O@HORN/DOT_BELOWg):O@HORN/DOT_BELOWg(:U@DOT_BELOWg):U@DOT_BELOWg(:U@HOOK_ABOVEg):U@
  HOOK_ABOVEg(:U@HORN/ACUTEg):U@HORN/ACUTEg(:U@HORN/GRAVEg):U@HORN/GRAVEg(:U@HORN/HOOK_ABOVEg):U@H
  ORN/HOOK_ABOVEg(:U@HORN/TILDEg):U@HORN/TILDEg(:U@HORN/DOT_BELOWg):U@HORN/DOT_BELOWg(:Y@GRAVEg):Y
  @GRAVEg(:Y@DOT_BELOWg):Y@DOT_BELOWg(:Y@HOOK_ABOVEg):Y@HOOK_ABOVEg(:Y@TILDEg):Y@TILDEg(:MIDDLE-WE
  LSH_LLg):MIDDLE-WELSH_LLg(:MIDDLE-WELSH_Vg):MIDDLE-WELSH_Vg(:Y@LOOPg):Y@LOOPaGREEK_):ALPHA@PSILI
  *DASIA*PSILI/VARIA*DASIA/VARIA*PSILI/OXIA*DASIA/OXIA*PSILI/PERISPOMENI*DASIA/PERISPOMENIg(:ALPHA
  @PSILI,DASIA,PSILI/VARIA,DASIA/VARIA,PSILI/OXIA,DASIA/OXIA,PSILI/PERISPOMENI,DASIA/PERISPOMENIg)
  :EPSILON@PSILI,DASIA,PSILI/VARIA,DASIA/VARIA,PSILI/OXIA,DASIA/OXIA=1F18g(:EPSILON@PSILI;DASIA;PS
  ILI/VARIA;DASIA/VARIA;PSILI/OXIA;DASIA/OXIA=1F20g):ETA@PSILI%DASIA%PSILI/VARIA%DASIA/VARIA%PSILI
  /OXIA%DASIA/OXIA%PSILI/PERISPOMENI%DASIA/PERISPOMENIg(:ETA@PSILI*DASIA*PSILI/VARIA*DASIA/VARIA*P
  SILI/OXIA*DASIA/OXIA*PSILI/PERISPOMENI*DASIA/PERISPOMENIg):IOTA@PSILI&DASIA&PSILI/VARIA&DASIA/VA
  RIA&PSILI/OXIA&DASIA/OXIA&PSILI/PERISPOMENI&DASIA/PERISPOMENIg(:IOTA@PSILI+DASIA+PSILI/VARIA+DAS
  IA/VARIA+PSILI/OXIA+DASIA/OXIA+PSILI/PERISPOMENI+DASIA/PERISPOMENIg):OMICRON@PSILI,DASIA,PSILI/V
  ARIA,DASIA/VARIA,PSILI/OXIA,DASIA/OXIA=1F48g(:OMICRON@PSILI;DASIA;PSILI/VARIA;DASIA/VARIA;PSILI/
  OXIA;DASIA/OXIA=1F50g):UPSILON@PSILI,DASIA,PSILI/VARIA,DASIA/VARIA,PSILI/OXIA,DASIA/OXIA,PSILI/P
  ERISPOMENI,DASIA/PERISPOMENI=1F59g(:UPSILON@DASIA=1F5B|/VARIA=1F5D~AND_OXIA=1F5F~AND_PERISPOMENI
  g):OMEGA@PSILI*DASIA*PSILI/VARIA*DASIA/VARIA*PSILI/OXIA*DASIA/OXIA*PSILI/PERISPOMENI*DASIA/PERIS
  POMENIg(:OMEGA@PSILI,DASIA,PSILI/VARIA,DASIA/VARIA,PSILI/OXIA,DASIA/OXIA,PSILI/PERISPOMENI,DASIA
  /PERISPOMENIg):ALPHA@VARIA*OXIAtEPSILON@VARIA,OXIAuTA@VARIA%OXIAtIOTA@VARIA&OXIAtOMICRON@VARIA,O
  XIAtUPSILON@VARIA,OXIAtOMEGA@VARIA*OXIA=1F80tALPHA@PSILI/YPOGEGRAMMENI*DASIA/YPOGEGRAMMENI*PSILI
  /VARIA/YPOGEGRAMMENI*DASIA/VARIA/YPOGEGRAMMENI*PSILI/OXIA/YPOGEGRAMMENI*DASIA/OXIA/YPOGEGRAMMENI
  *PSILI/PERISPOMENI/YPOGEGRAMMENI*DASIA/PERISPOMENI/YPOGEGRAMMENIg(:ALPHA@PSILI/PROSGEGRAMMENI,DA
  SIA/PROSGEGRAMMENI,PSILI/VARIA/PROSGEGRAMMENI,DASIA/VARIA/PROSGEGRAMMENI,PSILI/OXIA/PROSGEGRAMME
  NI,DASIA/OXIA/PROSGEGRAMMENI,PSILI/PERISPOMENI/PROSGEGRAMMENI,DASIA/PERISPOMENI/PROSGEGRAMMENIg)
  :ETA@PSILI/YPOGEGRAMMENI%DASIA/YPOGEGRAMMENI%PSILI/VARIA/YPOGEGRAMMENI%DASIA/VARIA/YPOGEGRAMMENI
  %PSILI/OXIA/YPOGEGRAMMENI%DASIA/OXIA/YPOGEGRAMMENI%PSILI/PERISPOMENI/YPOGEGRAMMENI%DASIA/PERISPO
  MENI/YPOGEGRAMMENIg(:ETA@PSILI/PROSGEGRAMMENI*DASIA/PROSGEGRAMMENI*PSILI/VARIA/PROSGEGRAMMENI*DA
  SIA/VARIA/PROSGEGRAMMENI*PSILI/OXIA/PROSGEGRAMMENI*DASIA/OXIA/PROSGEGRAMMENI*PSILI/PERISPOMENI/P
  ROSGEGRAMMENI*DASIA/PERISPOMENI/PROSGEGRAMMENIg):OMEGA@PSILI/YPOGEGRAMMENI*DASIA/YPOGEGRAMMENI*P
  SILI/VARIA/YPOGEGRAMMENI*DASIA/VARIA/YPOGEGRAMMENI*PSILI/OXIA/YPOGEGRAMMENI*DASIA/OXIA/YPOGEGRAM
  MENI*PSILI/PERISPOMENI/YPOGEGRAMMENI*DASIA/PERISPOMENI/YPOGEGRAMMENIg(:OMEGA@PSILI/PROSGEGRAMMEN
  I,DASIA/PROSGEGRAMMENI,PSILI/VARIA/PROSGEGRAMMENI,DASIA/VARIA/PROSGEGRAMMENI,PSILI/OXIA/PROSGEGR
  AMMENI,DASIA/OXIA/PROSGEGRAMMENI,PSILI/PERISPOMENI/PROSGEGRAMMENI,DASIA/PERISPOMENI/PROSGEGRAMME
  NIg):ALPHA@VRACHY*MACRON*VARIA/YPOGEGRAMMENI*YPOGEGRAMMENI*OXIA/YPOGEGRAMMENI=1FB6*PERISPOMENI~I
  /YPOGEGRAMMENIg(:ALPHA@VRACHY,MACRON,VARIA,OXIA,PROSGEGRAMMENIgKORONISgPROSGEGRAMMENIhSILIhERISP
  OMENIgDIALYTIKA/PERISPOMENIg):ETA@VARIA/YPOGEGRAMMENI%YPOGEGRAMMENI%OXIA/YPOGEGRAMMENI=1FC6%PERI
  SPOMENI|/YPOGEGRAMMENIg(:EPSILON@VARIA;OXIAwTA@VARIA*OXIA*PROSGEGRAMMENIgPSILI/VARIAqOXIAqPERISP
  OMENIg):IOTA@VRACHY&MACRON&DIALYTIKA/VARIA~ND_OXIA=1FD6&PERISPOMENI&DIALYTIKA/PERISPOMENIg(:IOTA
  @VRACHY+MACRON+VARIA+OXIA=1FDDgDASIA/VARIAqOXIAqPERISPOMENIg):UPSILON@VRACHY,MACRON,DIALYTIKA/VA
  RIA~A/OXIAtRHO@PSILI%DASIAtUPSILON@PERISPOMENI,DIALYTIKA/PERISPOMENIg(:UPSILON@VRACHY;MACRON;VAR
  IA;OXIAvRHO@DASIAgDIALYTIKA/VARIAuOXIAgVARIA=1FF2g):OMEGA@VARIA/YPOGEGRAMMENI*YPOGEGRAMMENI*OXIA
  /YPOGEGRAMMENI=1FF6*PERISPOMENI~I/YPOGEGRAMMENIg(:OMICRON@VARIA;OXIAxEGA@VARIA,OXIA,PROSGEGRAMME
  NIgOXIAgDASIA"

end BpfCompiler.Text.Name
