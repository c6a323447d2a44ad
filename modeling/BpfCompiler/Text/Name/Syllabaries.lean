/-!
# Names: syllabaries

The names of characters from `U+3000` to `U+FFFF`.
-/

namespace BpfCompiler.Text.Name

def syllabaries : String := "
  =3000aIDEOGRAPHIC_SPACEmCOMMAmFULL_STOPaDITTO_MARKaJAPANESE_INDUSTRIAL_STANDARD_SYMBOLaIDEOGRAPH
  IC_ITERATION_MARKmCLOSING_MARKmNUMBER_ZEROaLEFT_ANGLE_BRACKETaRIGHT_ANGLE_BRACKETaLEFT_DOUBLE_AN
  GLE_BRACKETaRIGHT_DOUBLE_ANGLE_BRACKETaLEFT_CORNER_BRACKETaRIGHT_CORNER_BRACKETaLEFT_WHITE_CORNE
  R_BRACKETaRIGHT_WHITE_CORNER_BRACKETaLEFT_BLACK_LENTICULAR_BRACKETaRIGHT_BLACK_LENTICULAR_BRACKE
  TaPOSTAL_MARKaGETA_MARKaLEFT_TORTOISE_SHELL_BRACKETaRIGHT_TORTOISE_SHELL_BRACKETaLEFT_WHITE_LENT
  ICULAR_BRACKETaRIGHT_WHITE_LENTICULAR_BRACKETaLEFT_WHITE_TORTOISE_SHELL_BRACKETaRIGHT_WHITE_TORT
  OISE_SHELL_BRACKETaLEFT_WHITE_SQUARE_BRACKETaRIGHT_WHITE_SQUARE_BRACKETaWAVE_DASHaREVERSED_DOUBL
  E_PRIME_QUOTATION_MARKaDOUBLE_PRIME_QUOTATION_MARKaLOW_DOUBLE_PRIME_QUOTATION_MARKaPOSTAL_MARK_F
  ACEaHANGZHOU_NUMERAL_ONErTWOsHREErFOURsIVErSIXsEVENrEIGHTrNINEaIDEOGRAPHIC_LEVEL_TONE_MARKmRISIN
  G_TONE_MARKmDEPARTING_TONE_MARKmENTERING_TONE_MARKaHANGUL_SINGLE_DOT_TONE_MARKhDOUBLE_DOT_TONE_M
  ARKaWAVY_DASHaVERTICAL_KANA_REPEAT_MARKvWITH_VOICED_SOUND_MARKvMARK_UPPER_HALFvWITH_VOICED_SOUND
  _MARK_UPPER_HALFvMARK_LOWER_HALFaCIRCLED_POSTAL_MARKaIDEOGRAPHIC_TELEGRAPH_LINE_FEED_SEPARATOR_S
  YMBOLaHANGZHOU_NUMERAL_TENsWENTYsHIRTYaVERTICAL_IDEOGRAPHIC_ITERATION_MARKaMASU_MARKaPART_ALTERN
  ATION_MARKaIDEOGRAPHIC_VARIATION_INDICATORmHALF_FILL_SPACE=3041aHIRAGANA:)_AqAq)_IqIq)_UqUq)_EqE
  q)_OqOqKAqGAqKIqGIqKUqGUqKEqGEqKOqGOqSAqZAqSIqZIqSUqZUqSEqZEqSOqZOqTAqDAqTIqDIq)_TUqTUqDUqTEqDEq
  TOqDOqNArIrUrErOqHAqBAqPAqHIqBIqPIqHUqBUqPUqHEqBEqPEqHOqBOqPOqMArIrUrErOq)_YAqYAq)_YUqYUq)_YOqYO
  qRArIrUrErOq)_WAqWArIrErOqNqVUq)_KAxE=3099aCOMBINING_KATAKANA-HIRAGANA_VOICED_SOUND_MARK%SEMI-VO
  ICED_SOUND_MARKaKATAKANA-HIRAGANA_VOICED_SOUND_MARKsSEMI-VOICED_SOUND_MARKaHIRAGANA_ITERATION_MA
  RKjVOICED_ITERATION_MARKjDIGRAPH_YORIaKATAKANA-HIRAGANA_DOUBLE_HYPHENi:)_AqAq)_IqIq)_UqUq)_EqEq)
  _OqOqKAqGAqKIqGIqKUqGUqKEqGEqKOqGOqSAqZAqSIqZIqSUqZUqSEqZEqSOqZOqTAqDAqTIqDIq)_TUqTUqDUqTEqDEqTO
  qDOqNArIrUrErOqHAqBAqPAqHIqBIqPIqHUqBUqPUqHEqBEqPEqHOqBOqPOqMArIrUrErOq)_YAqYAq)_YUqYUq)_YOqYOqR
  ArIrUrErOq)_WAqWArIrErOqNqVUq)_KAxEqVArIrErOjMIDDLE_DOTi-HIRAGANA_PROLONGED_SOUND_MARKi_ITERATIO
  N_MARKjVOICED_ITERATION_MARKjDIGRAPH_KOTO=3105aBOPOMOFO:BqPqMqFqDqTqNqLqGqKqHqJqQqXqZHqCHqSHqRqZ
  qCqSqAqOqErHqAIqEIqAUqOUqANqENqANGqENGrRqIqUqIUqVqNGqGNqIHqO@DOT_ABOVEqNN=3131aHANGUL:KIYEOKoSSA
  NGKIYEOKoKIYEOK-SIOSoNIEUNt-CIEUCuHIEUHoTIKEUToSSANGTIKEUToRIEULt-KIYEOKuMIEUMuPIEUPuSIOSuTHIEUT
  HuPHIEUPHuHIEUHoMIEUMoPIEUPoSSANGPIEUPoPIEUP-SIOSoSIOSpSANGSIOSoIEUNGoCIEUCoSSANGCIEUCoCHIEUCHoK
  HIEUKHoTHIEUTHoPHIEUPHoHIEUHoApEoYAqEoEOpoYEOqoOoWAqEoOEoYOoUoWEOqpIoYUoEUoYIoIhFILLERhLETTER_SS
  ANGNIEUNoNIEUN-TIKEUTuSIOSuPANSIOSoRIEUL-KIYEOK-SIOSuTIKEUTuPIEUP-SIOSvANSIOSuYEORINHIEUHoMIEUM-
  PIEUPuSIOSuPANSIOSoKAPYEOUNMIEUMoPIEUP-KIYEOKuTIKEUTuSIOS-KIYEOKzTIKEUTuCIEUCuTHIEUTHoKAPYEOUNPI
  EUPwSSANGPIEUPoSIOS-KIYEOKtNIEUNtTIKEUTtPIEUPtCIEUCoPANSIOSoSSANGIEUNGoYESIEUNGw-SIOSxPANSIOSoKA
  PYEOUNPHIEUPHoSSANGHIEUHoYEORINHIEUHpO-YAtErIpU-YEOtrIoARAEAtE=3190aIDEOGRAPHIC_ANNOTATION_LINKI
  NG_MARKxREVERSE_MARKxONE_MARKxTWO_MARKyHREE_MARKxFOUR_MARKxTOP_MARKxMIDDLE_MARKxBOTTOM_MARKxFIRS
  T_MARKxSECOND_MARKxTHIRD_MARKxFOURTH_MARKxHEAVEN_MARKxEARTH_MARKxMAN_MARKaBOPOMOFO:BUqZIqJIqGUqE
  ErNNqOOrNNqIRqANNqINNqUNNqIMqNGGqAINNrUNNrMqOMrNGqINNNjFINAL:PwTwKwHjLETTER_GHqLHqZYjFINAL:GjLET
  TER_GWqKWqOEqAHaCJK_STROKE_TlWGlXGlBXGlSWlHZZnGmPmZWGlSZWGlHZTnZPmPWGmZWnZZlNlHlSlPlSPlDlHZmGlSZ
  mWZmTmGlPDmZlTNlSZZmWGlHXWGmZZZGlPGlQ=31F0aKATAKANA:)_KUwSIxUwTOwNUwHAxIxUxExOwMUwRAxIxUxExOaPAR
  ENTHESIZED_HANGUL_KIYEOKvNIEUNvTIKEUTvRIEULvMIEUMvPIEUPvSIOSvIEUNGvCIEUCwHIEUCHvKHIEUKHvTHIEUTHv
  PHIEUPHvHIEUHvKIYEOK_AvNIEUN_AvTIKEUT_AvRIEUL_AvMIEUM_AvPIEUP_AvSIOS_AvIEUNG_AvCIEUC_AwHIEUCH_Av
  KHIEUKH_AvTHIEUTH_AvPHIEUPH_AvHIEUH_AvCIEUC_UoKOREAN_CHARACTER_OJEON,_HU=3220oIDEOGRAPH_ONEyTWOz
  HREEyFOURzIVEySIXzEVENyEIGHTyNINEyTENyMOONyFIREyWATERzOODyMETALyEARTHySUNzTOCKyHAVEySOCIETYyNAME
  ySPECIALyFINANCIALyCONGRATULATIONyLABORyREPRESENTyCALLySTUDYzUPERVISEyENTERPRISEyRESOURCEyALLIAN
  CEyFESTIVALyRESTySELFyREACHaCIRCLED_IDEOGRAPH_QUESTIONsKINDERGARTENsSCHOOLsKOTOiNUMBER_TEN_ON_BL
  ACK_SQUAREqWENTY_ON_BLACK_SQUAREqHIRTY_ON_BLACK_SQUAREpFORTY_ON_BLACK_SQUAREqIFTY_ON_BLACK_SQUAR
  EpSIXTY_ON_BLACK_SQUAREqEVENTY_ON_BLACK_SQUAREpEIGHTY_ON_BLACK_SQUAREaPARTNERSHIP_SIGNaCIRCLED_N
  UMBER_TWENTY_ONEwTWOxHREEwFOURxIVEwSIXxEVENwEIGHTwNINEqHIRTYv_ONEwTWOxHREEwFOURxIVEiHANGUL_KIYEO
  KpNIEUNpTIKEUTpRIEULpMIEUMpPIEUPpSIOSpIEUNGpCIEUCqHIEUCHpKHIEUKHpTHIEUTHpPHIEUPHpHIEUHpKIYEOK_Ap
  NIEUN_ApTIKEUT_ApRIEUL_ApMIEUM_ApPIEUP_ApSIOS_ApIEUNG_ApCIEUC_AqHIEUCH_ApKHIEUKH_ApTHIEUTH_ApPHI
  EUPH_ApHIEUH_AiKOREAN_CHARACTER_CHAMKOzJUEUIiHANGUL_IEUNG_UaKOREAN_STANDARD_SYMBOLaCIRCLED_IDEOG
  RAPH_ONEsTWOtHREEsFOURtIVEsSIXtEVENsEIGHTsNINEsTENsMOONsFIREsWATERtOODsMETALsEARTHsSUNtTOCKsHAVE
  sSOCIETYsNAMEsSPECIALsFINANCIALsCONGRATULATIONsLABORsSECRETsMALEsFEMALEsSUITABLEsEXCELLENTsPRINT
  sATTENTIONsITEMsRESTsCOPYuRRECTsHIGHsCENTREsLOWtEFTsRIGHTsMEDICINEsRELIGIONsSTUDYtUPERVISEsENTER
  PRISEsRESOURCEsALLIANCEsNIGHTiNUMBER_THIRTY_SIXxEVENwEIGHTwNINEpFORTYu_ONEvTWOwHREEvFOURwIVEvSIX
  wEVENvEIGHTvNINEqIFTYaIDEOGRAPHIC_TELEGRAPH_SYMBOL_FOR_JANUARY.FEBRUARY.MARCH.APRIL.MAY.JUNE<LY.
  AUGUST.SEPTEMBER.OCTOBER.NOVEMBER.DECEMBERaSQUARE_HGhERGiVaLIMITED_LIABILITY_SIGNaCIRCLED_KATAKA
  NA_ArIrUrErOrKAsIsUsEsOrSAsIsUsEsOrTAsIsUsEsOrNAsIsUsEsOrHAsIsUsEsOrMAsIsUsEsOrYAsUsOrRAsIsUsEsO
  rWAsIsEsOaSQUARE_ERA_NAME_REIWAhAPAATOiRUHUAiNPEAiARUhININGUjTIhUONhESUKUUDOiEKAAhONSUiOMUhKAIRI
  jRATTOkORIIhGARONjNMAiIGAjNIIhKYURIIhGIRUDAAhKIROlGURAMUlMEETORUlWATTOhGURAMUnTONhKURUZEIROkOONE
  iEESUiORUNAjOPOhSAIKURUjNTIIMUiIRINGUiENTIlOhDAASUiESIiORUhTONhNANOiOTTOhHAITUhPAASENTOkTUhBAARE
  RUhPIASUTORUjKURUkOhBIRUhHUARADDOjIITOhBUSSYERUhHURANiEKUTAARUhPESOjNIHIhHERUTUhPENSUjEZIhBEETAh
  POINTOhBORUTOhHONhPONDOhHOORUkNhMAIKUROkRUjHHAjRUKUjNSYONiIKURONjRIlBAARUiEGAlTONjETORUhYAADOkRU
  iUANhRITTORUjRAiUPIIjUBURUiEMUjNTOGENhWATTOaIDEOGRAPHIC_TELEGRAPH_SYMBOL_FOR_HOUR_ZERO^ONE^TWO|H
  REE^FOUR|IVE^SIX|EVEN^EIGHT^NINE^TEN^ELEVEN^TWELVE|HIRTEEN^FOURTEEN|IFTEEN^SIXTEEN|EVENTEEN^EIGH
  TEEN^NINETEEN^TWENTY~ENTY-ONE~ENTY-TWO~ENTY-THREE~ENTY-FOURaSQUARE_HPAhDAhAUhBARhOVhPChDMj_SQUAR
  EDkCUBEDhIUhERA_NAME_HEISEIqSYOUWAqTAISYOUqMEIZIhCORPORATIONhPA_AMPShNAhMU_AiAhKAiBhMBhGBhCALhKC
  ALhPFhNFhMU_FkGiGhKGhHZhKHZhMHZhGHZhTHZhMU_LiLhDLhKLhFMhNMhMU_MiMhCMhKMhMM_SQUAREDhCM_SQUAREDhM_
  SQUAREDhKM_SQUAREDhMM_CUBEDhCM_CUBEDhM_CUBEDhKM_CUBEDhM_OVER_Sp_SQUAREDhPAhKPAhMPAhGPAhRADk_OVER
  _Sr_SQUAREDhPShNShMU_SiShPVhNVhMU_ViVhKVhMV_MEGAhPWhNWhMU_WiWhKWhMW_MEGAhK_OHMhM_OHMhAMhBQhCCiDi
  _OVER_KGiOhDBhGYhHAiPhINhKKiM_(iThLMiNiOGiXhMB_)iILiOLhPHiMiPMiRhSRiVhWBhV_OVER_MhA_OVER_MaIDEOG
  RAPHIC_TELEGRAPH_SYMBOL_FOR_DAY_ONE?TWO^HREE?FOUR^IVE?SIX^EVEN?EIGHT?NINE?TEN?ELEVEN?TWELVE^HIRT
  EEN?FOURTEEN^IFTEEN?SIXTEEN^EVENTEEN?EIGHTEEN?NINETEEN?TWENTY~NTY-ONE~NTY-TWO~NTY-THREE~NTY-FOUR
  ~NTY-FIVE~NTY-SIX~NTY-SEVEN~NTY-EIGHT~NTY-NINE^HIRTY~RTY-ONEaSQUARE_GAL=4DC0aHEXAGRAM_FOR_THE_CR
  EATIVE_HEAVENrRECEPTIVE_EARTHnDIFFICULTY_AT_THE_BEGINNINGnYOUTHFUL_FOLLYnWAITINGnCONFLICTnTHE_AR
  MYnHOLDING_TOGETHERn)_TAMINGnTREADINGnPEACEnSTANDSTILLnFELLOWSHIPnGREAT_POSSESSIONnMODESTYnENTHU
  SIASMnFOLLOWINGnWORK_ON_THE_DECAYEDnAPPROACHnCONTEMPLATIONnBITING_THROUGHnGRACEnSPLITTING_APARTn
  RETURNnINNOCENCEnGREAT_TAMINGnMOUTH_CORNERSnGREAT_PREPONDERANCEnTHE_ABYSMAL_WATERrCLINGING_FIREn
  INFLUENCEnDURATIONnRETREATnGREAT_POWERnPROGRESSnDARKENING_OF_THE_LIGHTnTHE_FAMILYnOPPOSITIONoBST
  RUCTIONnDELIVERANCEpCREASEnINCREASEnBREAKTHROUGHnCOMING_TO_MEETnGATHERING_TOGETHERnPUSHING_UPWAR
  DnOPPRESSIONnTHE_WELLnREVOLUTIONnTHE_CAULDRONrAROUSING_THUNDERrKEEPING_STILL_MOUNTAINnDEVELOPMEN
  TnTHE_MARRYING_MAIDENnABUNDANCEnTHE_WANDERERrGENTLE_WINDrJOYOUS_LAKEnDISPERSIONnLIMITATIONnINNER
  _TRUTHn)_PREPONDERANCEnAFTER_COMPLETIONnBEFORE_COMPLETION=A000aYI_SYLLABLE_ITnXnnPnEToXooPmATnXn
  nPmUOXooPmOTnXnnPmEXnmWUmBIToXooPoETpXppPnAToXooPnUOXppPnOToXooPnEXooPnUToXooPoRXpnYToXooPoRXpmP
  IToXooPoEXppPnAToXooPnUOXppPnOToXooPnUToXooPoRXpnYToXooPoRXpmBBITpXppPpETqXqqPoATpXppPoUOXqqPoOT
  pXppPoEXppPoUTpXppPpRXqoYTpXppPmNBITpXppPpEXqqPoATpXppPoOTpXppPoUTpXppPpRXqoYTpXppPpRXqmHMITpXpp
  PpEXqqPoATpXppPoUOXqqPoOTpXppPoUTpXppPpRXqoYXppPpRXqmMIToXooPoEXppPnAToXooPnUOTpXppPnOToXooPnEXo
  nUToXooPoRXpnYToXooPmFIToXooPnAToXooPnOXooPnUToXooPoRXpnYToXooPmVIToXooPoETpXppPnAToXooPnOToXooP
  nEXoPnUToXooPoRXpnYToXooPoRXpmDIToXooPoEXppPnAToXooPnUOXpnOToXooPnEXooPnUToXooPoRXpmTIToXooPoEXp
  pPnAToXooPnUOTpXppPnOToXooPnEXooPnUToXooPoRXpmDDITpXppPpEXqqPoATpXppPoUOXqqPoOTpXppPoEXppPoUTpXp
  pPpRXqmNDITpXppPpEXqoATpXppPoOTpXppPoEXppPoUTpXppPpRXqmHNITpXppPpETqXqqPoATpXppPoUOXqoOTpXpPoEXp
  pPoUTmNIToXooPoEXppPnAXooPnUOXppPnOToXooPnEXooPnUToXooPoRXpmHLITpXppPpEXqqPoATpXppPoUOXqqPoOXppP
  oEXppPoUTpXppPpRXqoYTpXppPpRXqmLIToXooPoETpXppPnAToXooPnUOTpXppPnOToXooPnEXooPnUToXooPoRXpnYToXo
  oPoRXpmGIToXooPoETpXppPnAToXooPnUOTpXppPnOToXooPnEToXooPnUToXooPoRXpmKIToXooPoEXppPnAToXooPnUOXp
  pPnOToXooPnEToXooPnUToXooPoRXpmGGITpXppEXqqPoATpXppPoUOTqXqqPoOTpXppPoETpXppPoUTpXppPpRXqmMGIEXq
  oATpXppPoUOXqqPoOTpXppPoEXppPoUTpXppPpRXqmHXITpXppPpETqXqqPoATpXppPoUOTqXqqPoOTpXppPoEXppPmNGIEX
  qqPoATpXppPoUOTqXqoOTpXppPoEXppPmHIToEXpnAToXooPnUOTpXppPnOToXooPnEXooPmWAToXooPnUOXppPnOXooPnEX
  ooPmZIToXooPoEXppPnAToXooPnUOXppPnOToXooPnEXooPnUToXooPoRXpnYToXooPoRXpmCIToXooPoETpXppPnAToXooP
  nUOXppPnOToXooPnEXooPnUToXooPoRXpnYToXooPoRXpmZZITpXppPpETqXqqPoATpXppPoOXppPoEXppPoUXppPpRXqoYT
  pXppPpRXqmNZITpXppPpEXqqPoATpXppPoUOXqoOXpPoEXpoUXppPpRXqoYTpXppPpRXqmSIToXooPoEXppPnAToXooPnUOX
  ppPnOToXooPnEXooPnUToXooPoRXpnYToXooPoRXpnSITpXppPpEXqqPoATpXppPoOTpXppPoEXppPoUTpXppPoYTpXppPpR
  XqmZHATpXppPoUOXqqPoOTpXppPoETpXppPoUTpXppPpRXqoYTpXppPpRXqmCHATpXppPoUOTqXqqPoOTpXppPoETpXppPoU
  XppPpRXqoYTpXppPpRXqmRRAXpoUOXqoOTpXppPoETpXppPoUTpXppPpRXqoYTpXppPpRXqmNRATpXppPoOXppPoETpXppPo
  UTpXppPpRXqoYTpXppPpRXqmSHATpXppPoUOXqqPoOTpXppPoETpXppPoUTpXppPpRXqoYTpXppPpRXqmRAToXooPnUOXppP
  nOToXooPnEXooPnUToXooPoRXpnYToXooPoRXpmJIToXooPoETpXppPnUOTpXppPnOToXooPnUToXooPoRXpnYToXooPoRXp
  mQIToXooPoETpXppPnUOTpXppPnOToXooPnUToXooPoRXpnYToXooPoRXpmJJITpXppPpETqXqqPoUOXqqPoOTpXppPoUTpX
  ppPpRXqoYTpXppPmNJITpXppPpETqXqqPoUOXqoOTpXppPoUXppPpRXqoYTpXppPpRXqnYITpXppPpETqXqqPoUOXqqPoOTp
  XppPoUTpXppPmXIToXooPoETpXppPnUOXpnOToXooPnYToXooPoRXpmYIToXooPoETpXppPnUOTpXppPnOToXooPnUToXooP
  oRXpnYToXooPoRXp=A490dRADICAL_QOTlLIlKITlNYIPlCYPlSSIlGGOPmEPlMIlHXITlLYRlBBUTlMOPlYOlPUTlHXUOlT
  ATlGAlZUPlCYTlDDURlBURlGGUOlNYOPlTUlOPlJJUTlZOTlPYTlHMOlYITlVURlSHYlVEPlZAlJOlNZUPlJJYlGOTlJJIEl
  WOlDUlSHURlLIElCYmUOPmIPlHXOPlSHATlZURlSHOPlCHElZZIETlNBIElKE=A4D0aLISU:BAmPAnHAmDAmTAnHAmGAmKAn
  HAmJAmCAnHAmDZAmTSAoHAmMAmNAmLAmSAmZHAnAmNGAmHAmXAmHHAmFAmWAmSHAmYAmGHAmAnEmEnUmImOmUnEnHmOEmTON
  E_MYA_TIrNA_POrMYA_CYAvBOvNAvJEUfPUNCTUATION_COMMArFULL_STOPaVAI_SYLLABLE_EEpNnHEEnWEEqNnPEEnBHE
  EoEEnMBEEnKPEEnMGBEEnGBEEnFEEnVEEnTEEoHEEnDHEEpHEEnLEEnREEnDEEnNDEEnSEEoHEEnZEEoHEEnCEEnJEEnNJEE
  nYEEnKEEnNGGEEnGEEnMEEnNEEoYEEnIoNnHIpNnWIpNnPInBHIoInMBInKPInMGBInGBInFInVInTIoHInDHIpHInLInRIn
  DInNDInSIoHInZIoHInCInJInNJInYInKInNGGInGInMInNIoYInAoNnNGANnHApNnWApNnPAnBHAoAnMBAnKPAqNnMGBAnG
  BAnFAnVAnTAoHAnDHApHAnLAnRAnDAnNDAnSAoHAnZAoHAnCAnJAnNJAnYAnKApNnNGGAnGAnMAnNAoYAnOOpNnHOOnWOOqN
  nPOOnBHOOoOOnMBOOnKPOOnMGBOOnGBOOnFOOnVOOnTOOoHOOnDHOOpHOOnLOOnROOnDOOnNDOOnSOOoHOOnZOOoHOOnCOOn
  JOOnNJOOnYOOnKOOnNGGOOnGOOnMOOnNOOoYOOnUoNnHUpNnWUpNnPUnBHUoUnMBUnKPUnMGBUnGBUnFUnVUnTUoHUnDHUpH
  UnLUnRUnDUnNDUnSUoHUnZUoHUnCUnJUnNJUnYUnKUnNGGUnGUnMUnNUoYUnOoNnNGONnHOpNnWOpNnPOnBHOoOnMBOnKPOn
  MGBOnGBOqNnFOnVOnTOoHOnDHOpHOnLOnROnDOnNDOnSOoHOnZOoHOnCOnJOnNJOnYOnKOnNGGOnGOnMOnNOoYOnEoNnNGEN
  nHEpNnWEpNnPEnBHEoEnMBEnKPEqNnMGBEnGBEqNnFEnVEnTEoHEnDHEpHEnLEnREnDEnNDEnSEoHEnZEoHEnCEnJEnNJEnY
  EnKEnNGGErNnGEpNnMEnNEoYEoGnLENGTHENEReCOMMAeFULL_STOPeQUESTION_MARKeSYLLABLE_NDOLE_FAtKAtSOOgMB
  OL_FEENGlKEENGlTINGlNIIlBANGlFAAlTAAlDANGmOONGlKUNGlTONGlDO-OlJONGeDIGIT_ZEROkONEkTWOlHREEkFOURl
  IVEkSIXlEVENkEIGHTkNINEeSYLLABLE_NDOLE_MAtDO=A640aCYRILLIC_(:ZEMLYAj):ZEMLYAj(:DZELOj):DZELOj(:R
  EVERSED_DZEj):REVERSED_DZEj(:IOTAj):IOTAj(:DJERVj):DJERVj(:MONOGRAPH_UKj):MONOGRAPH_UKj(:BROAD_O
  MEGAj):BROAD_OMEGAj(:NEUTRAL_YERj):NEUTRAL_YERj(:YERU@BACK_YERj):YERU@BACK_YERj(:IOTIFIED_YATj):
  IOTIFIED_YATj(:REVERSED_YUj):REVERSED_YUj(:IOTIFIED_Aj):IOTIFIED_Aj(:CLOSED_LITTLE_YUSj):CLOSED_
  LITTLE_YUSj(:BLENDED_YUSj):BLENDED_YUSj(:IOTIFIED_CLOSED_LITTLE_YUSj):IOTIFIED_CLOSED_LITTLE_YUS
  j(:YNj):YNj(:REVERSED_TSEj):REVERSED_TSEj(:SOFT_DEj):SOFT_DEj(:SOFT_ELj):SOFT_ELj(:SOFT_EMj):SOF
  T_EMj(:MONOCULAR_Oj):MONOCULAR_Oj(:BINOCULAR_Oj):BINOCULAR_Oj(:DOUBLE_MONOCULAR_Oj):DOUBLE_MONOC
  ULAR_OjLETTER_MULTIOCULAR_ObOMBINING_CYRILLIC_VZMETtTEN_MILLIONS_SIGNtHUNDRED_MILLIONS_SIGNtTHOU
  SAND_MILLIONS_SIGNaSLAVONIC_ASTERISKaCOMBINING_CYRILLIC:UKRAINIAN_IE!I!YI!U!HARD_SIGN!YERU!SOFT_
  SIGN!OMEGAtKAVYKAtPAYEROKbYRILLIC_KAVYKAjPAYEROKj(:DWEj):DWEj(:DZWEj):DZWEj(:ZHWEj):ZHWEj(:CCHEj
  ):CCHEj(:DZZEj):DZZEj(:TE@MIDDLE_HOOKj):TE@MIDDLE_HOOKj(:TWEj):TWEj(:TSWEj):TSWEj(:TSSEj):TSSEj(
  :TCHEj):TCHEj(:HWEj):HWEj(:SHWEj):SHWEj(:DOUBLE_Oj):DOUBLE_Oj(:CROSSED_Oj):CROSSED_OaMODIFIER:CY
  RILLIC_HARD_SIGNzSOFT_SIGNaCOMBINING_CYRILLIC:EF!IOTIFIED_EaBAMUM:AnKAnUnKUnEEnREEnTAEnOnNYInInL
  AnPAnRIIpEEnLEEEEnMEEEEnTAAnNDAAoJAEMnMnSUUnMUnSHIIoIoHEUXoEUXnKYEEoETnNUAEpoJUAEnYOQnSHUnYUQoAn
  NSHAnKEUXnPEUXnNJEEoTEEnPUEnWUEnPEEnFEEnRUnLUnMInNInREUXoAEnKENnNGKWAENpGApAnSHOnPUAEnFUoOMnWAnN
  AnLInPInLOQnKOnMBENnRENnMENoAnTInKInMOoBAAnTETnKPAnTENnNTUUnSAMBAnFAAMAEnKOVUUpGHOMgCOMBINING_MA
  RK_KOQNDONvTUKWENTISgNJAEMLIgFULL_STOPgCOLONiMMAgSEMICOLONgQUESTION_MARK=A700aMODIFIER:CHINESE_T
  ONE_YIN_PING*ANG_PING*IN_SHANG*ANG_SHANG*IN_QU*ANG_QU*IN_RU*ANG_RUqEXTRA-HIGH_DOTTED_TONE_BARqHI
  GH_DOTTED_TONE_BARqMID_DOTTED_TONE_BARqLOW_DOTTED_TONE_BARqEXTRA-LOW_DOTTED_TONE_BARwHIGH_DOTTED
  _LEFT-STEM_TONE_BARqHIGH_DOTTED_LEFT-STEM_TONE_BARqMID_DOTTED_LEFT-STEM_TONE_BARqLOW_DOTTED_LEFT
  -STEM_TONE_BARqEXTRA-LOW_DOTTED_LEFT-STEM_TONE_BARwHIGH_LEFT-STEM_TONE_BARqHIGH_LEFT-STEM_TONE_B
  ARqMID_LEFT-STEM_TONE_BARqLOW_LEFT-STEM_TONE_BARqEXTRA-LOW_LEFT-STEM_TONE_BARqDOT_VERTICAL_BARuS
  LASHuHORIZONTAL_BARqLOWER_RIGHT_CORNER_ANGLEqRAISED_UP[xDOWN[xEXCLAMATION_MARKxINVERTED_EXCLAMAT
  ION_MARKqLOW_INVERTED_EXCLAMATION_MARKqSTRESS/HIGH_TONE$LOW_TONEaLATIN_(:EGYPTOLOGICAL_ALEFg):EG
  YPTOLOGICAL_ALEFg(:EGYPTOLOGICAL_AINg):EGYPTOLOGICAL_AINg(:HENGg):HENGg(:TZg):TZg(:TRESILLOg):TR
  ESILLOg(:CUATRILLOg):CUATRILLOg(:CUATRILLO@COMMAg):CUATRILLO@COMMAgLETTER_)_(_F$Sg(:AAg):AAg(:AO
  g):AOg(:AUg):AUg(:AVg):AVg(:AV@HORIZONTAL_BARg):AV@HORIZONTAL_BARg(:AYg):AYg(:REVERSED_C@DOTg):R
  EVERSED_C@DOTg(:K@STROKEg):K@STROKEg(:K@DIAGONAL_STROKEg):K@DIAGONAL_STROKEg(:K@STROKE/DIAGONAL_
  STROKEg):K@STROKE/DIAGONAL_STROKEg(:BROKEN_Lg):BROKEN_Lg(:L@HIGH_STROKEg):L@HIGH_STROKEg(:O@LONG
  _STROKE_OVERLAYg):O@LONG_STROKE_OVERLAYg(:O@LOOPg):O@LOOPg(:OOg):OOg(:P@STROKE_THROUGH_DESCENDER
  g):P@STROKE_THROUGH_DESCENDERg(:P@FLOURISHg):P@FLOURISHg(:P@SQUIRREL_TAILg):P@SQUIRREL_TAILg(:Q@
  STROKE_THROUGH_DESCENDERg):Q@STROKE_THROUGH_DESCENDERg(:Q@DIAGONAL_STROKEg):Q@DIAGONAL_STROKEg(:
  R_ROTUNDAg):R_ROTUNDAg(:RUM_ROTUNDAg):RUM_ROTUNDAg(:V@DIAGONAL_STROKEg):V@DIAGONAL_STROKEg(:VYg)
  :VYg(:VISIGOTHIC_Zg):VISIGOTHIC_Zg(:THORN@STROKEg):THORN@STROKEg(:THORN@STROKE_THROUGH_DESCENDER
  g):THORN@STROKE_THROUGH_DESCENDERg(:VENDg):VENDg(:ETg):ETg(:ISg):ISg(:CONg):CONaMODIFIER:USaLATI
  N_):DUMtLUMtMUMtNUMtRUMgLETTER_)_(_RUMg):TUMtUMg(:INSULAR_Dg):INSULAR_Dg(:INSULAR_Fg):INSULAR_Fg
  (:INSULAR_GvTURNED_INSULAR_Gg):TURNED_INSULAR_Gg(:TURNED_Lg):TURNED_Lg(:INSULAR_Rg):INSULAR_Rg(:
  INSULAR_Sg):INSULAR_Sg(:INSULAR_Tg):INSULAR_TaMODIFIER:LOW_CIRCUMFLEX_ACCENTqCOLONqSHORT_EQUALS_
  SIGNaLATIN_(:SALTILLOg):SALTILLOg(:TURNED_Hg):L@RETROFLEX_HOOK/BELTgLETTER_SINOLOGICAL_DOTg(:N@D
  ESCENDERg):N@DESCENDERg(:C@BARg):C@BAR!PALATAL_HOOKtH@PALATAL_HOOKg(:B@FLOURISHg):B@FLOURISHg(:F
  @STROKEg):F@STROKEg(:VOLAPUK_AEg):VOLAPUK_AEg(:VOLAPUK_OEg):VOLAPUK_OEg(:VOLAPUK_UEg):VOLAPUK_UE
  g(:G@OBLIQUE_STROKEg):G@OBLIQUE_STROKEg(:K@OBLIQUE_STROKEg):K@OBLIQUE_STROKEg(:N@OBLIQUE_STROKEg
  ):N@OBLIQUE_STROKEg(:R@OBLIQUE_STROKEg):R@OBLIQUE_STROKEg(:S@OBLIQUE_STROKEg):S@OBLIQUE_STROKEg(
  :H@HOOKvREVERSED_OPEN_EvSCRIPT_GvL@BELTv)_(_IgLETTER_)_(_Qg(:TURNED_K%TvJ@CROSSED-TAILvCHIvBETAg
  ):BETAg(:OMEGAg):OMEGAg(:U@STROKEg):U@STROKEg(:GLOTTAL_Ag):GLOTTAL_Ag(:GLOTTAL_Ig):GLOTTAL_Ig(:G
  LOTTAL_Ug):GLOTTAL_Ug(:OLD_POLISH_Og):OLD_POLISH_Og(:ANGLICANA_Wg):ANGLICANA_Wg(:C@PALATAL_HOOKv
  S@HOOKvZ@PALATAL_HOOKvD@SHORT_STROKE_OVERLAYg):D@SHORT_STROKE_OVERLAYg(:S@SHORT_STROKE_OVERLAYg)
  :S@SHORT_STROKE_OVERLAY=A7D0g(:CLOSED_INSULAR_Gg):CLOSED_INSULAR_G=A7D3tDOUBLE_THORN=A7D5!WYNNg(
  :MIDDLE_SCOTS_Sg):MIDDLE_SCOTS_Sg(:SIGMOID_Sg):SIGMOID_S=A7F2aMODIFIER:(_CyFyQaLATIN_(:REVERSED_
  HALF_Hg):REVERSED_HALF_HgEPIGRAPHIC:SIDEWAYS_IaMODIFIER:(_H@STROKEq)_LIGATURE_OEaLATIN:)_(_TURNE
  D_MgEPIGRAPHIC:REVERSED_F.PyINVERTED_Mz_LONGAyARCHAIC_MaSYLOTI_NAGRI:AuInSIGN_DVISVARAnLETTER_Uu
  EuOnSIGN_HASANTAnLETTER_KOvHOuGOvHOnSIGN_ANUSVARAnLETTER_COvHOuJOvHOuTTOwHOuDDOwHOuTOvHOuDOvHOuN
  OuPOvHOuBOvHOuMOuROuLOuRROuSOuHOnVOWEL_SIGN_AyIyUyEyOOnPOETRY_MARK-1z2z3z4nSIGN_ALTERNATE_HASANT
  A=A830aNORTH_INDIC_FRACTION_ONE_QUARTERzHALFvTHREE_QUARTERSvONE_SIXTEENTHzEIGHTHvTHREE_SIXTEENTH
  SmQUARTER_MARKmPLACEHOLDER_MARKmRUPEE_MARKmQUANTITY_MARK=A840aPHAGS-PA:KArHAqGAqNGAqCArHAqJAqNYA
  qTArHAqDAqNAqPArHAqBAqMAqTSAsHAqDZAqWAqZHArAq)_AqYAqRAqLAqSHArAqHAqAqIqUqEqOqQAqXAqFAqGGAqEEjSUB
  JOINED:WA!YAjLETTER_TTAsHAqDDAqNNAqALTERNATE_YAqVOICELESS_SHAvD_HAqASPIRATED_FAjSUBJOINED:RAlPER
  FIXED:RAjLETTER_CANDRABINDUjSINGLE_HEAD_MARKjDOUBLE_HEAD_MARKjMARK_SHADoDOUBLE_SHAD=A880aSAURASH
  TRA_SIGN_ANUSVARAqVISARGAlLETTER_AtAsItIsUtUsVOCALIC_R$R!L$LsEtEsAIsOtOsAUsKAtHAsGAtHAsNGAsCAtHA
  sJAtHAsNYAsTTAuHAsDDAuHAsNNAsTAtHAsDAtHAsNAsPAtHAsBAtHAsMAsYAsRAsLAsVAsSHAtSAtAsHAsLLAlCONSONANT
  _SIGN_HAARUlVOWEL_SIGN_AAwIxIwUxUwVOCALIC_R+R*L+LwExEwAIwOxOwAUlSIGN_VIRAMAqCANDRABINDU=A8CElDAN
  DAmOUBLE_DANDAmIGIT_ZEROrONErTWOsHREErFOURsIVErSIXsEVENrEIGHTrNINE=A8E0aCOMBINING_DEVANAGARI_DIG
  IT_ZERO$ONE$TWO%HREE$FOUR%IVE$SIX%EVEN$EIGHT$NINEvLETTER_A%U%KA%NA%PA%RA%VIvSIGN_AVAGRAHAaDEVANA
  GARI_SIGN_SPACING_CANDRABINDUqCANDRABINDU_VIRAMAqDOUBLE_CANDRABINDU_VIRAMAqCANDRABINDU_TWO&HREE%
  AVAGRAHAqPUSHPIKAlGAP_FILLERlCARETlHEADSTROKElSIGN_SIDDHAMlJAIN_OMlLETTER_AYlVOWEL_SIGN_AYaKAYAH
  _LI_DIGIT_ZEROpONEpTWOqHREEpFOURqIVEpSIXqEVENpEIGHTpNINEjLETTER_KArHAqGAqNGAqSArHAqZAqNYAqTAqHTA
  qNAqPArHAqMAqDAqBAqRAqYAqLAqWAqTHAqHAqVAqCAqAqOEqIqOOjVOWEL_UEpEpUpEEpOjTONE_PLOPHUoCALYAt_PLOPH
  UjSIGN_CWIoSHYAaREJANG:KAoGAoNGAoTAoDAoNAoPAoBAoMAoCAoJAoNYAoSAoRAoLAoYAoWAoHAoMBAoNGGApDApYJAoA
  hVOWEL_SIGN_IsUsEsAIsOsAUsEUtAhCONSONANT_SIGN_NGxwRwHhVIRAMA=A95FhSECTION_MARKaHANGUL_CHOSEONG_T
  IKEUT-MIEUMxPIEUPxSIOSxCIEUCqRIEUL-KIYEOKwSSANGKIYEOKwTIKEUTwSSANGTIKEUTwMIEUMwPIEUPwSSANGPIEUPw
  KAPYEOUNPIEUPwSIOSwCIEUCwKHIEUKHqMIEUM-KIYEOKwTIKEUTwSIOSqPIEUP-SIOS-THIEUTHwKHIEUKHwHIEUHqSSANG
  SIOS-PIEUPqIEUNG-RIEULwHIEUHqSSANGCIEUC-HIEUHvTHIEUTHqPHIEUPH-HIEUHqHIEUH-SIOSqSSANGYEORINHIEUH=
  A980aJAVANESE_SIGN_PANYANGGAoCECAKoLAYARoWIGNYANjLETTER_AqI_KAWIrrIqUqPA_CEREKqNGA_LELETz_RASWAD
  IqEqAIqOqKAs_SASAKtMURDAqGAs_MURDAqNGAqCAs_MURDAqJAqNYA_MURDAqJA_MAHAPRANAqNYAqTTAt_MAHAPRANAqDD
  At_MAHAPRANAqNA_MURDAqTAs_MURDAqDAs_MAHAPRANAqNAqPAs_MURDAqBAs_MURDAqMAqYAqRAs_AGUNGqLAqWAqSA_MU
  RDAuAHAPRANAsqHAjSIGN_CECAK_TELUjVOWEL_SIGN_TARUNGvOLONGuWULUy_MELIKuSUKUy_MENDUTuTALINGuDIRGA_M
  UREuPEPETjCONSONANT_SIGN_KERETyPENGKALyCAKRAjPANGKONjLEFT_RERENGGANjRIGHT_RERENGGANjPADA_ANDAPoM
  ADYAoLUHURoWINDUoPANGKAToLINGSApUNGSIoADEGs_ADEGoPISELEHjTURNED_PADA_PISELEH=A9CFjPANGRANGKEPjDI
  GIT_ZEROpONEpTWOqHREEpFOURqIVEpSIXqEVENpEIGHTpNINE=A9DEjPADA_TIRTA_TUMETESoISEN-ISENaMYANMAR:SHA
  N_GHAuCHAuJHAuNNAuBHAiSIGN_SHAN_SAWiMODIFIER:SHAN_REDUPLICATIONiLETTER_TAI_LAING_NYAzFAzGA!HAzJA
  !HAzDDA$HAzNNAiTAI_LAING_DIGIT_ZEROyONEyTWOzHREEyFOURzIVEySIXzEVENyEIGHTyNINEiLETTER_TAI_LAING_L
  LAzDA!HAzBA!HA=AA00aCHAM:AmImUmEmAImOmKAnHAmGAnHAmNGUEoAmCHAoHAmJAnHAmNHUEoAoJAmTAnHAmDAnHAmNUEn
  AmDDAmPAnPAnHAmBAnHAmMUEnAmBBAmYAmRAmLAmVAmSSAnAmHAfVOWEL_SIGN_AAqIrIqEIqUqOErqAIrUqUEfCONSONANT
  _SIGN_YAuRAuLAuWA=AA40fLETTER_FINAL_KsGsNGfCONSONANT_SIGN_FINAL_NGfLETTER_FINAL_CHsTsNsPsYsRsLsS
  SfCONSONANT_SIGN_FINAL_M!H=AA50fDIGIT_ZEROlONElTWOmHREElFOURmIVElSIXmEVENlEIGHTlNINE=AA5CfPUNCTU
  ATION_SPIRALrDANDAsOUBLE_DANDArTRIPLE_DANDAaMYANMAR:KHAMTI_GAwCAxHAwJAxHAwNYAwTTAyHAwDDAyHAxHAwN
  AwSAwHAxHAwFAiMODIFIER:KHAMTI_REDUPLICATIONiLETTER_KHAMTI_XAwZAwRAjOGOGRAM_KHAMTI_OAYyQNyHMiSYMB
  OL_AITON_EXCLAMATIONvONEvTWOiLETTER_AITON_RAiSIGN_PAO_KAREN_TONEnTAI_LAING_TONE-2%5iLETTER_SHWE_
  PALAUNG_CHA%SHAaTAI_VIET:LOW_KOqHIGH_KOqLOW_KHOqHIGH_KHOqLOW_KHHOqHIGH_KHHOqLOW_GOqHIGH_GOqLOW_N
  GOqHIGH_NGOqLOW_COqHIGH_COqLOW_CHOqHIGH_CHOqLOW_SOqHIGH_SOqLOW_NYOqHIGH_NYOqLOW_DOqHIGH_DOqLOW_T
  OqHIGH_TOqLOW_THOqHIGH_THOqLOW_NOqHIGH_NOqLOW_BOqHIGH_BOqLOW_POqHIGH_POqLOW_PHOqHIGH_PHOqLOW_FOq
  HIGH_FOqLOW_MOqHIGH_MOqLOW_YOqHIGH_YOqLOW_ROqHIGH_ROqLOW_LOqHIGH_LOqLOW_VOqHIGH_VOqLOW_HOqHIGH_H
  OqLOW_OqHIGH_OjMAI_KANGjVOWEL_AApIpUEqpEpOjMAI_KHITjVOWEL_IApUEAqApAUEqYqNqMjTONE_MAI_EKsNUENGsT
  HOsSONG=AADBjSYMBOL_KONqNUENGqSAMqHO_HOIqKOI_KOIaMEETEI_MAYEK:EuOuCHAuNYAuTTAwHAuDDAwHAuNNAuSHAv
  SAnVOWEL_SIGN_IIyUUyAAIzUzAUnCHEIKHANnAHANG_KHUDAMoNJInSYLLABLE_REPETITION_MARKnWORD_REPETITION_
  MARKnVOWEL_SIGN_VISARGAoIRAMA=AB01aETHIOPIC_SYLLABLE_TTHUvIvAAvEEwvO=AB09sDDHUvIvAAvEEwvO=AB11tZ
  UuIuAAuEEvuO=AB20sCCHHAwUwIwAAwEExwO=AB28sBBAuUuIuAAuEEvuO=AB30aLATIN_):BARRED_ALPHAtA_REVERSED-
  SCHWAtBLACKLETTER_EuARRED_EtE@FLOURISHtLENIS_FtSCRIPT_G@CROSSED-TAILtL@INVERTED_LAZY_S!DOUBLE_MI
  DDLE_TILDE!MIDDLE_RINGtM@CROSSED-TAILtN@CROSSED-TAILtENG@CROSSED-TAILtBLACKLETTER_O,@STROKEtOPEN
  _O@STROKEtINVERTED_OEtTURNED_OE@STROKE;HORIZONTAL_STROKE$_OPEN-O;@STROKEtSTIRRUP_RgLETTER_)_(_R@
  RIGHT_LEGg):R_WITHOUT_HANDLEtDOUBLE_RtR@CROSSED-TAILtDOUBLE_R@CROSSED-TAILtSCRIPT_R$@RINGtBASELI
  NE_ESHtU@SHORT_RIGHT_LEGvBAR@SHORT_RIGHT_LEGuItTURNED_UItU@LEFT_HOOKtCHIw@LOW_RIGHT_RING,LEFT_SE
  RIFtX@LOW_RIGHT_RING%NG_LEFT_LEG|/LOW_RIGHT_RING~WITH_SERIFtY@SHORT_RIGHT_LEGaMODIFIER_BREVE@INV
  ERTED_BREVEjLETTER_)_HENGwL@INVERTED_LAZY_S&MIDDLE_TILDEwU@LEFT_HOOKaLATIN_):SAKHA_YATtIOTIFIED_
  EtOPEN_OEtUOtINVERTED_ALPHAaGREEK:)_(_OMEGAaLATIN_):DZ_DIGRAPH@RETROFLEX_HOOKtTS_DIGRAPH@RETROFL
  EX_HOOKuURNED_R@MIDDLE_TILDEaMODIFIER:)_TURNED_WqLEFT_TACKqRIGHT_TACK=AB70aCHEROKEE_):AwEwIwOwUw
  VwGAwKAwGExIxOxUxVwHAxExIxOxUxVwLAxExIxOxUxVwMAxExIxOxUwNAwHNAwNAHxExIxOxUxVwQUAyEyIyOyUyVwSAxxE
  xIxOxUxVwDAwTAwDEwTEwDIwTIwDOxUxVxLAwTLAyEyIyOyUyVxSAyEyIyOyUyVwWAxExIxOxUxVwYAaMEETEI_MAYEK:KOK
  uSAMuLAIuMITuPAuNAuCHILuTILuKHOUuNGOUuTHOUuWAIuYANGuHUKuUNuIuPHAMuATIYAuGOKuJHAMuRAIuBAuJILuDILu
  GHOUuDHOUuBHAMuKOK_LONSUMuLAI_LONSUMuMIT_LONSUMuPA_LONSUMuNA_LONSUMuTIL_LONSUMuNGOU_LONSUMuI_LON
  SUMnVOWEL_SIGN_ONAPyINAPyANAPyYENAPySOUNAPyUNAPyCHEINAPyNUNGnCHEIKHEInLUM_IYEKnAPUN_IYEK=ABF0nDI
  GIT_ZEROtONEtTWOuHREEtFOURuIVEtSIXuEVENtEIGHTtNINE=D7B0aHANGUL_JUNGSEONG_O-YEOtO-IrYO-AvEuEOrU-Y
  EOtI-IrYU-AEuOrEU-AuEOvuOrI-YA-OvEuEOvtO-ItYOuUtIrARAEA-AxE=D7CBiONGSEONG_NIEUN-RIEULxCHIEUCHrSS
  ANGTIKEUT%-PIEUPrTIKEUT-PIEUPySIOS%-KIYEOKyCIEUCzHIEUCHyTHIEUTHrRIEUL-SSANGKIYEOKxKIYEOK-HIEUHrS
  SANGRIEUL-KHIEUKHrRIEUL-MIEUM-HIEUHxPIEUP-TIKEUT&PHIEUPHxYESIEUNGzORINHIEUH-HIEUHrKAPYEOUNRIEULr
  MIEUM-NIEUNxSSANGNIEUNrSSANGMIEUMrMIEUM-PIEUP-SIOSxCIEUCrPIEUP-TIKEUTxRIEUL-PHIEUPHxMIEUMrSSANGP
  IEUPrPIEUP-SIOS-TIKEUTxCIEUCyHIEUCHrSIOS-MIEUMwKAPYEOUNPIEUPsSANGSIOS-KIYEOK$TIKEUTsIOS-PANSIOSw
  CIEUCxHIEUCHwTHIEUTHwHIEUHrPANSIOS-PIEUPzKAPYEOUNPIEUPrYESIEUNG-MIEUM!HIEUHrCIEUC-PIEUPxSSANGPIE
  UPrSSANGCIEUCrPHIEUPH-SIOSzTHIEUTH=FB00aLATIN_)_LIGATURE_FFwIwLwFIxLvLONG_S_TvST=FB13aARMENIAN_)
  _LIGATURE_MEN_NOW%ECH%INIyVEW_NOWyMEN_XEH=FB1DaHEBREW:YOD@HIRIQhPOINT_JUDEO-SPANISH_VARIKAhLIGAT
  URE_YIDDISH_YOD_YOD_PATAHiETTER_ALTERNATIVE_AYINoWIDE_ALEFtDALETtHEtKAFtLAMEDtFINAL_MEMtRESHtTAV
  oALTERNATIVE_PLUS_SIGNoSHIN@SHIN_DOTzIN_DOTyDAGESH/SHIN_DOT>IN_DOToALEF@PATAHyQAMATSyMAPIQoBET@D
  AGESHoGIMEL@DAGESHoDALET@DAGESHoHE@MAPIQoVAV@DAGESHoZAYIN@DAGESH=FB38oTET@DAGESHoYOD@DAGESHoFINA
  L_KAF@DAGESHoKAF@DAGESHoLAMED@DAGESH=FB3EoMEM@DAGESH=FB40oNUN@DAGESHoSAMEKH@DAGESH=FB43oFINAL_PE
  @DAGESHoPE@DAGESH=FB46oTSADI@DAGESHoQOF@DAGESHoRESH@DAGESHoSHIN@DAGESHoTAV@DAGESHoVAV@HOLAMoBET@
  RAFEoKAF@RAFEoPE@RAFEiIGATURE_ALEF_LAMEDaARABIC:ALEF_WASLA_ISOLATED]zFINAL]oBEEH_ISOLATED]tFINAL
  ]tINITIAL]tMEDIAL]oPEH_ISOLATED]sFINAL]sINITIAL]sMEDIAL]oBEHEH_ISOLATED]uFINAL]uINITIAL]uMEDIAL]
  oTTEHEH_ISOLATED]vFINAL]vINITIAL]vMEDIAL]pEHEH_ISOLATED]uFINAL]uINITIAL]uMEDIAL]pTEH_ISOLATED]tF
  INAL]tINITIAL]tMEDIAL]oVEH_ISOLATED]sFINAL]sINITIAL]sMEDIAL]oPEHEH_ISOLATED]uFINAL]uINITIAL]uMED
  IAL]oDYEH_ISOLATED]tFINAL]tINITIAL]tMEDIAL]oNYEH_ISOLATED]tFINAL]tINITIAL]tMEDIAL]oTCHEH_ISOLATE
  D]uFINAL]uINITIAL]uMEDIAL]tEH_ISOLATED]wFINAL]wINITIAL]wMEDIAL]oDDAHAL_ISOLATED]vFINAL]pAHAL_ISO
  LATED]uFINAL]pUL_ISOLATED]sFINAL]pDAL_ISOLATED]tFINAL]oJEH_ISOLATED]sFINAL]oRREH_ISOLATED]tFINAL
  ]oKEHEH_ISOLATED]uFINAL]uINITIAL]uMEDIAL]oGAF_ISOLATED]sFINAL]sINITIAL]sMEDIAL]pUEH_ISOLATED]tFI
  NAL]tINITIAL]tMEDIAL]oNGOEH_ISOLATED]uFINAL]uINITIAL]uMEDIAL]pOON_GHUNNA_ISOLATED]!FINAL]oRNOON_
  ISOLATED]uFINAL]uINITIAL]uMEDIAL]oHEH@YEH_ABOVE_ISOLATED].FINAL]sGOAL_ISOLATED]xFINAL]xINITIAL]x
  MEDIAL]sDOACHASHMEE_ISOLATED]*FINAL]*INITIAL]*MEDIAL]oYEH_BARREE_ISOLATED]zFINAL]zWITH_HAMZA_ABO
  VE_ISOLATED]~E_FINAL]hSYMBOL_DOT_ABOVEsBELOWoTWO_DOTS_ABOVExBELOWpHREE_DOTS_ABOVEzBELOWzPOINTING
  _DOWNWARDS_ABOVE~RDS_BELOWoFOUR_DOTS_ABOVEyBELOWoDOUBLE_VERTICAL_BAR_BELOWoTWO_DOTS_VERTICALLY_A
  BOVE;BELOWoRINGo)_TAH_ABOVEyBELOWoWASLA_ABOVE=FBD3hLETTER_NG_ISOLATED]rFINAL]rINITIAL]rMEDIAL]oU
  _ISOLATED]qFINAL]oOE_ISOLATED]rFINAL]oYU_ISOLATED]rFINAL]oU@HAMZA_ABOVE_ISOLATED]oVE_ISOLATED]rF
  INAL]oKIRGHIZ_OE_ISOLATED]zFINAL]wYU_ISOLATED]zFINAL]oE_ISOLATED]qFINAL]qINITIAL]qMEDIAL]oUIGHUR
  _KAZAKH_KIRGHIZ_ALEF_MAKSURA_INITIAL]~_MAKSURA_MEDIAL]iIGATURE_YEH@HAMZA_ABOVE@ALEF_ISOLATED]~H_
  ALEF_FINAL]~H_AE_ISOLATED]~H_AE_FINAL]~H_WAW_ISOLATED]~H_WAW_FINAL]~H_U_ISOLATED]~H_U_FINAL]~H_O
  E_ISOLATED]~H_OE_FINAL]~H_YU_ISOLATED]~H_YU_FINAL]~H_E_ISOLATED]~H_E_FINAL]~H_E_INITIAL]qUIGHUR_
  KIRGHIZ_YEH@HAMZA_ABOVE@ALEF_MAKSURA_ISOLATED]~HAMZA_ABOVE@ALEF_MAKSURA_FINAL]~HAMZA_ABOVE@ALEF_
  MAKSURA_INITIAL]iETTER_FARSI_YEH_ISOLATED]yFINAL]yINITIAL]yMEDIAL]iIGATURE_YEH@HAMZA_ABOVE@JEEM_
  ISOLATED]~H_HAH_ISOLATED]~H_MEEM_ISOLATED]~H_ALEF_MAKSURA_ISOLATED]~H_YEH_ISOLATED]qBEH@JEEM_ISO
  LATED]zHAH_ISOLATED]zKHAH_ISOLATED]zMEEM_ISOLATED]zALEF_MAKSURA_ISOLATED]zYEH_ISOLATED]qTEH@JEEM
  _ISOLATED]zHAH_ISOLATED]zKHAH_ISOLATED]zMEEM_ISOLATED]zALEF_MAKSURA_ISOLATED]zYEH_ISOLATED]rHEH@
  JEEM_ISOLATED]!MEEM_ISOLATED]!ALEF_MAKSURA_ISOLATED]!YEH_ISOLATED]qJEEM@HAH_ISOLATED]!MEEM_ISOLA
  TED]qHAH@JEEM_ISOLATED]zMEEM_ISOLATED]qKHAH@JEEM_ISOLATED]!HAH_ISOLATED]!MEEM_ISOLATED]qSEEN@JEE
  M_ISOLATED]!HAH_ISOLATED]!KHAH_ISOLATED]!MEEM_ISOLATED]rAD@HAH_ISOLATED]zMEEM_ISOLATED]qDAD@JEEM
  _ISOLATED]zHAH_ISOLATED]zKHAH_ISOLATED]zMEEM_ISOLATED]qTAH@HAH_ISOLATED]zMEEM_ISOLATED]qZAH@MEEM
  _ISOLATED]qAIN@JEEM_ISOLATED]zMEEM_ISOLATED]qGHAIN@JEEM_ISOLATED]$MEEM_ISOLATED]qFEH@JEEM_ISOLAT
  ED]zHAH_ISOLATED]zKHAH_ISOLATED]zMEEM_ISOLATED]zALEF_MAKSURA_ISOLATED]zYEH_ISOLATED]qQAF@HAH_ISO
  LATED]zMEEM_ISOLATED]zALEF_MAKSURA_ISOLATED]zYEH_ISOLATED]qKAF@ALEF_ISOLATED]zJEEM_ISOLATED]zHAH
  _ISOLATED]zKHAH_ISOLATED]zLAM_ISOLATED]zMEEM_ISOLATED]zALEF_MAKSURA_ISOLATED]zYEH_ISOLATED]qLAM@
  JEEM_ISOLATED]zHAH_ISOLATED]zKHAH_ISOLATED]zMEEM_ISOLATED]zALEF_MAKSURA_ISOLATED]zYEH_ISOLATED]q
  MEEM@JEEM_ISOLATED]!HAH_ISOLATED]!KHAH_ISOLATED]!MEEM_ISOLATED]!ALEF_MAKSURA_ISOLATED]!YEH_ISOLA
  TED]qNOON@JEEM_ISOLATED]!HAH_ISOLATED]!KHAH_ISOLATED]!MEEM_ISOLATED]!ALEF_MAKSURA_ISOLATED]!YEH_
  ISOLATED]qHEH@JEEM_ISOLATED]zMEEM_ISOLATED]zALEF_MAKSURA_ISOLATED]zYEH_ISOLATED]qYEH@JEEM_ISOLAT
  ED]zHAH_ISOLATED]zKHAH_ISOLATED]zMEEM_ISOLATED]zALEF_MAKSURA_ISOLATED]zYEH_ISOLATED]qTHAL@SUPERS
  CRIPT_ALEF_ISOLATED]qREH@SUPERSCRIPT_ALEF_ISOLATED]qALEF_MAKSURA@SUPERSCRIPT_ALEF_ISOLATED]qSHAD
  DA@DAMMATAN_ISOLATED]%KASRATAN_ISOLATED]%FATHA_ISOLATED]%DAMMA_ISOLATED]%KASRA_ISOLATED]%SUPERSC
  RIPT_ALEF_ISOLATED]qYEH@HAMZA_ABOVE@REH_FINAL]~H_ZAIN_FINAL]~H_MEEM_FINAL]~H_NOON_FINAL]~H_ALEF_
  MAKSURA_FINAL]~H_YEH_FINAL]qBEH@REH_FINAL]zZAIN_FINAL]zMEEM_FINAL]zNOON_FINAL]zALEF_MAKSURA_FINA
  L]zYEH_FINAL]qTEH@REH_FINAL]zZAIN_FINAL]zMEEM_FINAL]zNOON_FINAL]zALEF_MAKSURA_FINAL]zYEH_FINAL]r
  HEH@REH_FINAL]!ZAIN_FINAL]!MEEM_FINAL]!NOON_FINAL]!ALEF_MAKSURA_FINAL]!YEH_FINAL]qFEH@ALEF_MAKSU
  RA_FINAL]zYEH_FINAL]qQAF@ALEF_MAKSURA_FINAL]zYEH_FINAL]qKAF@ALEF_FINAL]zLAM_FINAL]zMEEM_FINAL]zA
  LEF_MAKSURA_FINAL]zYEH_FINAL]qLAM@MEEM_FINAL]zALEF_MAKSURA_FINAL]zYEH_FINAL]qMEEM@ALEF_FINAL]!ME
  EM_FINAL]qNOON@REH_FINAL]!ZAIN_FINAL]!MEEM_FINAL]!NOON_FINAL]!ALEF_MAKSURA_FINAL]!YEH_FINAL]qALE
  F_MAKSURA@SUPERSCRIPT_ALEF_FINAL]qYEH@REH_FINAL]zZAIN_FINAL]zMEEM_FINAL]zNOON_FINAL]zALEF_MAKSUR
  A_FINAL]zYEH_FINAL]zHAMZA_ABOVE@JEEM_INITIAL]~H_HAH_INITIAL]~H_KHAH_INITIAL]~H_MEEM_INITIAL]~H_H
  EH_INITIAL]qBEH@JEEM_INITIAL]zHAH_INITIAL]zKHAH_INITIAL]zMEEM_INITIAL]zHEH_INITIAL]qTEH@JEEM_INI
  TIAL]zHAH_INITIAL]zKHAH_INITIAL]zMEEM_INITIAL]zHEH_INITIAL]rHEH@MEEM_INITIAL]qJEEM@HAH_INITIAL]!
  MEEM_INITIAL]qHAH@JEEM_INITIAL]zMEEM_INITIAL]qKHAH@JEEM_INITIAL]!MEEM_INITIAL]qSEEN@JEEM_INITIAL
  ]!HAH_INITIAL]!KHAH_INITIAL]!MEEM_INITIAL]rAD@HAH_INITIAL]zKHAH_INITIAL]zMEEM_INITIAL]qDAD@JEEM_
  INITIAL]zHAH_INITIAL]zKHAH_INITIAL]zMEEM_INITIAL]qTAH@HAH_INITIAL]qZAH@MEEM_INITIAL]qAIN@JEEM_IN
  ITIAL]zMEEM_INITIAL]qGHAIN@JEEM_INITIAL]$MEEM_INITIAL]qFEH@JEEM_INITIAL]zHAH_INITIAL]zKHAH_INITI
  AL]zMEEM_INITIAL]qQAF@HAH_INITIAL]zMEEM_INITIAL]qKAF@JEEM_INITIAL]zHAH_INITIAL]zKHAH_INITIAL]zLA
  M_INITIAL]zMEEM_INITIAL]qLAM@JEEM_INITIAL]zHAH_INITIAL]zKHAH_INITIAL]zMEEM_INITIAL]zHEH_INITIAL]
  qMEEM@JEEM_INITIAL]!HAH_INITIAL]!KHAH_INITIAL]!MEEM_INITIAL]qNOON@JEEM_INITIAL]!HAH_INITIAL]!KHA
  H_INITIAL]!MEEM_INITIAL]!HEH_INITIAL]qHEH@JEEM_INITIAL]zMEEM_INITIAL]zSUPERSCRIPT_ALEF_INITIAL]q
  YEH@JEEM_INITIAL]zHAH_INITIAL]zKHAH_INITIAL]zMEEM_INITIAL]zHEH_INITIAL]!AMZA_ABOVE@MEEM_MEDIAL]~
  H_HEH_MEDIAL]qBEH@MEEM_MEDIAL]zHEH_MEDIAL]qTEH@MEEM_MEDIAL]zHEH_MEDIAL]rHEH@MEEM_MEDIAL]!HEH_MED
  IAL]qSEEN@MEEM_MEDIAL]!HEH_MEDIAL]rHEEN@MEEM_MEDIAL]$HEH_MEDIAL]qKAF@LAM_MEDIAL]zMEEM_MEDIAL]qLA
  M@MEEM_MEDIAL]qNOON@MEEM_MEDIAL]!HEH_MEDIAL]qYEH@MEEM_MEDIAL]zHEH_MEDIAL]qSHADDA@FATHA_MEDIAL]%D
  AMMA_MEDIAL]%KASRA_MEDIAL]qTAH@ALEF_MAKSURA_ISOLATED]zYEH_ISOLATED]qAIN@ALEF_MAKSURA_ISOLATED]zY
  EH_ISOLATED]qGHAIN@ALEF_MAKSURA_ISOLATED]$YEH_ISOLATED]qSEEN@ALEF_MAKSURA_ISOLATED]!YEH_ISOLATED
  ]rHEEN@ALEF_MAKSURA_ISOLATED]$YEH_ISOLATED]qHAH@ALEF_MAKSURA_ISOLATED]zYEH_ISOLATED]qJEEM@ALEF_M
  AKSURA_ISOLATED]!YEH_ISOLATED]qKHAH@ALEF_MAKSURA_ISOLATED]!YEH_ISOLATED]qSAD@ALEF_MAKSURA_ISOLAT
  ED]zYEH_ISOLATED]qDAD@ALEF_MAKSURA_ISOLATED]zYEH_ISOLATED]qSHEEN@JEEM_ISOLATED]$HAH_ISOLATED]$KH
  AH_ISOLATED]$MEEM_ISOLATED]$REH_ISOLATED]rEEN@REH_ISOLATED]rAD@REH_ISOLATED]qDAD@REH_ISOLATED]qT
  AH@ALEF_MAKSURA_FINAL]zYEH_FINAL]qAIN@ALEF_MAKSURA_FINAL]zYEH_FINAL]qGHAIN@ALEF_MAKSURA_FINAL]$Y
  EH_FINAL]qSEEN@ALEF_MAKSURA_FINAL]!YEH_FINAL]rHEEN@ALEF_MAKSURA_FINAL]$YEH_FINAL]qHAH@ALEF_MAKSU
  RA_FINAL]zYEH_FINAL]qJEEM@ALEF_MAKSURA_FINAL]!YEH_FINAL]qKHAH@ALEF_MAKSURA_FINAL]!YEH_FINAL]qSAD
  @ALEF_MAKSURA_FINAL]zYEH_FINAL]qDAD@ALEF_MAKSURA_FINAL]zYEH_FINAL]qSHEEN@JEEM_FINAL]$HAH_FINAL]$
  KHAH_FINAL]$MEEM_FINAL]$REH_FINAL]rEEN@REH_FINAL]rAD@REH_FINAL]qDAD@REH_FINAL]qSHEEN@JEEM_INITIA
  L]$HAH_INITIAL]$KHAH_INITIAL]$MEEM_INITIAL]rEEN@HEH_INITIAL]rHEEN@HEH_INITIAL]qTAH@MEEM_INITIAL]
  qSEEN@JEEM_MEDIAL]!HAH_MEDIAL]!KHAH_MEDIAL]rHEEN@JEEM_MEDIAL]$HAH_MEDIAL]$KHAH_MEDIAL]qTAH@MEEM_
  MEDIAL]qZAH@MEEM_MEDIAL]qALEF@FATHATAN_FINAL]<ISOLATED]aORNATE_LEFT_PARENTHESIShRIGHT_PARENTHESI
  SaARABIC_LIGATURE_RAHIMAHU_ALLAAHsDI_ALLAAHU_ANH,AA,UM;AA.NNAqSALLALLAAHU_ALAYHI_WA-AALIHqALAYHI
  _AS-SALAAMwM_AS-SALAAMxAA_AS-SALAAMw_AS-SALAATU_WAS-SALAAMqQUDDISA_SIRRAHqSALLALLAHU_ALAYHI_WAAA
  LIHEE_WA-SALLAMqALAYHAA_AS-SALAAMqTABAARAKA_WA-TAAALAAqRAHIMAHUM_ALLAAHqTEH@JEEM@MEEM_INITIAL]zH
  AH@JEEM_FINAL]|INITIAL];MEEM_INITIAL]zKHAH@MEEM_INITIAL]zMEEM@JEEM_INITIAL]<HAH_INITIAL]<KHAH_IN
  ITIAL]qJEEM@MEEM@HAH_FINAL]~INITIAL]qHAH@MEEM@YEH_FINAL]<ALEF_MAKSURA_FINAL]qSEEN@HAH@JEEM_INITI
  AL]!JEEM@HAH_INITIAL]>ALEF_MAKSURA_FINAL]!MEEM@HAH_FINAL]~INITIAL]>JEEM_INITIAL]>MEEM_FINAL]~_IN
  ITIAL]rAD@HAH@HAH_FINAL]^INITIAL]zMEEM@MEEM_FINAL]rHEEN@HAH@MEEM_FINAL]~_INITIAL]$JEEM@YEH_FINAL
  ]$MEEM@KHAH_FINAL]~H_INITIAL]?MEEM_FINAL]~M_INITIAL]qDAD@HAH@ALEF_MAKSURA_FINAL]zKHAH@MEEM_FINAL
  ]~INITIAL]qTAH@MEEM@HAH_FINAL]|INITIAL]<MEEM_INITIAL]<YEH_FINAL]qAIN@JEEM@MEEM_FINAL]zMEEM@MEEM_
  FINAL]~INITIAL]<ALEF_MAKSURA_FINAL]qGHAIN@MEEM@MEEM_FINAL]?YEH_FINAL]?ALEF_MAKSURA_FINAL]qFEH@KH
  AH@MEEM_FINAL]~INITIAL]qQAF@MEEM@HAH_FINAL]<MEEM_FINAL]qLAM@HAH@MEEM_FINAL];YEH_FINAL];ALEF_MAKS
  URA_FINAL]zJEEM@JEEM_INITIAL]~FINAL]zKHAH@MEEM_FINAL]~INITIAL]zMEEM@HAH_FINAL]|INITIAL]qMEEM@HAH
  @JEEM_INITIAL]<MEEM_INITIAL]<YEH_FINAL]!JEEM@HAH_INITIAL]>MEEM_INITIAL]!KHAH@JEEM_INITIAL]>MEEM_
  INITIAL]=FD92!JEEM@KHAH_INITIAL]qHEH@MEEM@JEEM_INITIAL]<MEEM_INITIAL]qNOON@HAH@MEEM_INITIAL]<ALE
  F_MAKSURA_FINAL]!JEEM@MEEM_FINAL]~_INITIAL]>ALEF_MAKSURA_FINAL]!MEEM@YEH_FINAL]>ALEF_MAKSURA_FIN
  AL]qYEH@MEEM@MEEM_FINAL]~INITIAL]qBEH@KHAH@YEH_FINAL]qTEH@JEEM@YEH_FINAL]<ALEF_MAKSURA_FINAL]zKH
  AH@YEH_FINAL]<ALEF_MAKSURA_FINAL]zMEEM@YEH_FINAL]<ALEF_MAKSURA_FINAL]qJEEM@MEEM@YEH_FINAL]!HAH@A
  LEF_MAKSURA_FINAL]!MEEM@ALEF_MAKSURA_FINAL]qSEEN@KHAH@ALEF_MAKSURA_FINAL]rAD@HAH@YEH_FINAL]rHEEN
  @HAH@YEH_FINAL]qDAD@HAH@YEH_FINAL]qLAM@JEEM@YEH_FINAL]zMEEM@YEH_FINAL]qYEH@HAH@YEH_FINAL]zJEEM@Y
  EH_FINAL]zMEEM@YEH_FINAL]qMEEM@MEEM@YEH_FINAL]qQAF@MEEM@YEH_FINAL]qNOON@HAH@YEH_FINAL]qQAF@MEEM@
  HAH_INITIAL]qLAM@HAH@MEEM_INITIAL]qAIN@MEEM@YEH_FINAL]qKAF@MEEM@YEH_FINAL]qNOON@JEEM@HAH_INITIAL
  ]qMEEM@KHAH@YEH_FINAL]qLAM@JEEM@MEEM_INITIAL]qKAF@MEEM@MEEM_FINAL]qLAM@JEEM@MEEM_FINAL]qNOON@JEE
  M@HAH_FINAL]qJEEM@HAH@YEH_FINAL]qHAH@JEEM@YEH_FINAL]qMEEM@JEEM@YEH_FINAL]qFEH@MEEM@YEH_FINAL]qBE
  H@HAH@YEH_FINAL]qKAF@MEEM@MEEM_INITIAL]qAIN@JEEM@MEEM_INITIAL]qSAD@MEEM@MEEM_INITIAL]rEEN@KHAH@Y
  EH_FINAL]qNOON@JEEM@YEH_FINAL]=FDCFqSALAAMUHU_ALAYNAA=FDF0tLA_USED_AS_KORANIC_STOP_SIGN_ISOLATED
  ]qQALA_USED_AS_KORANIC_STOP_SIGN_ISOLATED]qALLAH_ISOLATED]rKBAR_ISOLATED]qMOHAMMAD_ISOLATED]qSAL
  AM_ISOLATED]qRASOUL_ISOLATED]qALAYHE_ISOLATED]qWASALLAM_ISOLATED]qSALLA_ISOLATED]vLLAHOU_ALAYHE_
  WASALLAMqJALLAJALALOUHOUaRIAL_SIGNaARABIC_LIGATURE_BISMILLAH_AR-RAHMAN_AR-RAHEEMqSUBHAANAHU_WA_T
  AAALAAqAZZA_WA_JALLaVARIATION_SELECTOR-1t2t3t4t5t6t7t8t9t10u1u2u3u4u5u6aPRESENTATION]_FOR_VERTIC
  AL_COMMA+IDEOGRAPHIC_COMMA~IC_FULL_STOP+COLON+SEMICOLON+EXCLAMATION_MARK+QUESTION_MARK+LEFT_WHIT
  E_LENTICULAR_BRACKET+RIGHT_WHITE_LENTICULAR_BRAKCET+HORIZONTAL_ELLIPSIS=FE20aCOMBINING_LIGATURE_
  LEFT_HALFtRIGHT_HALFkDOUBLE_TILDE_LEFT_HALFxRIGHT_HALFkMACRON_LEFT_HALFrRIGHT_HALFkCONJOINING_MA
  CRONkLIGATURE_LEFT_HALF_BELOWtRIGHT_HALF_BELOWkTILDE_LEFT_HALF_BELOWqRIGHT_HALF_BELOWkMACRON_LEF
  T_HALF_BELOWrRIGHT_HALF_BELOWkCONJOINING_MACRON_BELOWlYRILLIC_TITLO_LEFT_HALFzRIGHT_HALFaPRESENT
  ATION]_FOR_VERTICAL_TWO_DOT_LEADER+EM_DASH,N_DASH+LOW_LINE+WAVY_LOW_LINE+LEFT_PARENTHESIS+RIGHT_
  PARENTHESIS+LEFT_CURLY_BRACKET+RIGHT_CURLY_BRACKET+LEFT_TORTOISE_SHELL_BRACKET+RIGHT_TORTOISE_SH
  ELL_BRACKET+LEFT_BLACK_LENTICULAR_BRACKET+RIGHT_BLACK_LENTICULAR_BRACKET+LEFT_DOUBLE_ANGLE_BRACK
  ET+RIGHT_DOUBLE_ANGLE_BRACKET+LEFT_ANGLE_BRACKET+RIGHT_ANGLE_BRACKET+LEFT_CORNER_BRACKET+RIGHT_C
  ORNER_BRACKET+LEFT_WHITE_CORNER_BRACKET+RIGHT_WHITE_CORNER_BRACKETaSESAME_DOTaWHITE_SESAME_DOTaP
  RESENTATION]_FOR_VERTICAL_LEFT_SQUARE_BRACKET+RIGHT_SQUARE_BRACKETaDASHED_OVERLINEaCENTRELINE_OV
  ERLINEaWAVY_OVERLINEaDOUBLE_WAVY_OVERLINEbASHED_LOW_LINEaCENTRELINE_LOW_LINEaWAVY_LOW_LINEa)_COM
  MAgIDEOGRAPHIC_COMMAgFULL_STOP=FE54gSEMICOLONgCOLONgQUESTION_MARKgEXCLAMATION_MARKhM_DASHgLEFT_P
  ARENTHESISgRIGHT_PARENTHESISgLEFT_CURLY_BRACKETgRIGHT_CURLY_BRACKETgLEFT_TORTOISE_SHELL_BRACKETg
  RIGHT_TORTOISE_SHELL_BRACKETgNUMBER_SIGNgAMPERSANDhSTERISKgPLUS_SIGNgHYPHEN-MINUSgLESS-THAN_SIGN
  gGREATER-THAN_SIGNgEQUALS_SIGN=FE68gREVERSE_SOLIDUSgDOLLAR_SIGNgPERCENT_SIGNgCOMMERCIAL_AT=FE70a
  ARABIC_FATHATAN_ISOLATED]hTATWEEL@FATHATAN_ABOVEhDAMMATAN_ISOLATED]hTAIL_FRAGMENThKASRATAN_ISOLA
  TED]=FE76hFATHA_ISOLATED]nMEDIAL]hDAMMA_ISOLATED]nMEDIAL]hKASRA_ISOLATED]nMEDIAL]hSHADDA_ISOLATE
  D]oMEDIAL]iUKUN_ISOLATED]nMEDIAL]hLETTER_HAMZA_ISOLATED]oALEF@MADDA_ABOVE_ISOLATED]>FINAL]yHAMZA
  _ABOVE_ISOLATED]>FINAL]oWAW@HAMZA_ABOVE_ISOLATED]<FINAL]oALEF@HAMZA_BELOW_ISOLATED]>FINAL]oYEH@H
  AMZA_ABOVE_ISOLATED]<FINAL]<INITIAL]<MEDIAL]oALEF_ISOLATED]tFINAL]oBEH_ISOLATED]sFINAL]sINITIAL]
  sMEDIAL]oTEH_MARBUTA_ISOLATED]!FINAL]sISOLATED]sFINAL]sINITIAL]sMEDIAL]pHEH_ISOLATED]tFINAL]tINI
  TIAL]tMEDIAL]oJEEM_ISOLATED]tFINAL]tINITIAL]tMEDIAL]oHAH_ISOLATED]sFINAL]sINITIAL]sMEDIAL]oKHAH_
  ISOLATED]tFINAL]tINITIAL]tMEDIAL]oDAL_ISOLATED]sFINAL]oTHAL_ISOLATED]tFINAL]oREH_ISOLATED]sFINAL
  ]oZAIN_ISOLATED]tFINAL]oSEEN_ISOLATED]tFINAL]tINITIAL]tMEDIAL]pHEEN_ISOLATED]uFINAL]uINITIAL]uME
  DIAL]pAD_ISOLATED]sFINAL]sINITIAL]sMEDIAL]oDAD_ISOLATED]sFINAL]sINITIAL]sMEDIAL]oTAH_ISOLATED]sF
  INAL]sINITIAL]sMEDIAL]oZAH_ISOLATED]sFINAL]sINITIAL]sMEDIAL]oAIN_ISOLATED]sFINAL]sINITIAL]sMEDIA
  L]oGHAIN_ISOLATED]uFINAL]uINITIAL]uMEDIAL]oFEH_ISOLATED]sFINAL]sINITIAL]sMEDIAL]oQAF_ISOLATED]sF
  INAL]sINITIAL]sMEDIAL]oKAF_ISOLATED]sFINAL]sINITIAL]sMEDIAL]oLAM_ISOLATED]sFINAL]sINITIAL]sMEDIA
  L]oMEEM_ISOLATED]tFINAL]tINITIAL]tMEDIAL]oNOON_ISOLATED]tFINAL]tINITIAL]tMEDIAL]oHEH_ISOLATED]sF
  INAL]sINITIAL]sMEDIAL]oWAW_ISOLATED]sFINAL]oALEF_MAKSURA_ISOLATED]$FINAL]oYEH_ISOLATED]sFINAL]sI
  NITIAL]sMEDIAL]iIGATURE_LAM@ALEF@MADDA_ABOVE_ISOLATED]~_ABOVE_FINAL]<HAMZA_ABOVE_ISOLATED]~_ABOV
  E_FINAL]~_BELOW_ISOLATED]~_BELOW_FINAL]*ISOLATED]*FINAL]=FEFFaZERO_WIDTH_NO-BREAK_SPACE=FF01aFUL
  LWIDTH_EXCLAMATION_MARKkQUOTATION_MARKkNUMBER_SIGNkDOLLAR_SIGNkPERCENT_SIGNkAMPERSANDlPOSTROPHEk
  LEFT_PARENTHESISkRIGHT_PARENTHESISkASTERISKkPLUS_SIGNkCOMMAkHYPHEN-MINUSkFULL_STOPkSOLIDUSkDIGIT
  _ZEROqONEqTWOrHREEqFOURrIVEqSIXrEVENqEIGHTqNINEkCOLONkSEMICOLONkLESS-THAN_SIGNkEQUALS_SIGNkGREAT
  ER-THAN_SIGNkQUESTION_MARKkCOMMERCIAL_ATkLATIN_(:A+B+C+D+E+F+G+H+I+J+K+L+M+N+O+P+Q+R+S+T+U+V+W+X
  +Y+ZlEFT_SQUARE_BRACKETkREVERSE_SOLIDUSlIGHT_SQUARE_BRACKETkCIRCUMFLEX_ACCENTkLOW_LINEkGRAVE_ACC
  ENTkLATIN_):A&B&C&D&E&F&G&H&I&J&K&L&M&N&O&P&Q&R&S&T&U&V&W&X&Y&ZlEFT_CURLY_BRACKETkVERTICAL_LINEk
  RIGHT_CURLY_BRACKETkTILDEkLEFT_WHITE_PARENTHESISkRIGHT_WHITE_PARENTHESISaHALFWIDTH_IDEOGRAPHIC_F
  ULL_STOPkLEFT_CORNER_BRACKETkRIGHT_CORNER_BRACKETkIDEOGRAPHIC_COMMAkKATAKANA_MIDDLE_DOTtLETTER_W
  O!)_A,I,U,E,O,YA.U.O,TUs-HIRAGANA_PROLONGED_SOUND_MARKs:A!I!U!E!O!KA$I$U$E$O!SA$I$U$E$O!TA$I$U$E
  $O!NA$I$U$E$O!HA$I$U$E$O!MA$I$U$E$O!YA$U$O!RA$I$U$E$O!WA!NtVOICED_SOUND_MARKtSEMI-VOICED_SOUND_M
  ARKkHANGUL_FILLERrLETTER_KIYEOKySSANGKIYEOKyKIYEOK-SIOSyNIEUN&-CIEUC*HIEUHyTIKEUTySSANGTIKEUTyRI
  EUL&-KIYEOK*MIEUM*PIEUP*SIOS*THIEUTH*PHIEUPH*HIEUHyMIEUMyPIEUPySSANGPIEUPyPIEUP-SIOSySIOSzSANGSI
  OSyIEUNGyCIEUCySSANGCIEUCyCHIEUCHyKHIEUKHyTHIEUTHyPHIEUPHyHIEUH=FFC2yAzEyYA!EyEOz=FFCAyYEO!yOyWA
  !EyOE=FFD2yYOyUyWEO!zIyYU=FFDAyEUyYIyI=FFE0aFULLWIDTH_CENT_SIGNkPOUND_SIGNkNOT_SIGNkMACRONkBROKE
  N_BARkYEN_SIGNkWON_SIGN=FFE8aHALFWIDTH]S_LIGHT_VERTICALkLEFTWARDS[kUPWARDS[kRIGHTWARDS[kDOWNWARD
  S[kBLACK_SQUAREkWHITE_CIRCLE=FFF9aINTERLINEAR_ANNOTATION_ANCHORxSEPARATORxTERMINATORaOBJECT_REPL
  ACEMENT_CHARACTERaREPLACEMENT_CHARACTER"

end BpfCompiler.Text.Name
