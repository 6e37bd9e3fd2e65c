import MetaDesk.Spelling.Dictionary

/-! # Built-in functions

The names of the functions that every program can call, by what they are for. -/

namespace MetaDesk.Spelling.Builtins

/-- The words of some lines. -/
def words (lines : List String) : List Text :=
  (lines.map String.toList).flatMap (Text.splitOn ' ')

/-- Functions of general use. -/
def commonFunctions : List Text := words [
  "Alert Comment DebugBreak ExpertRemove GetPointer GetTickCount GetMicrosecondCount",
  "MessageBox PeriodSeconds PlaySound Print PrintFormat ResetLastError SendFTP SendMail",
  "SendNotification Sleep TerminalClose TesterStatistics TranslateKey ZeroMemory GetLastError",
  "IsStopped UninitializeReason"]

/-- Functions on arrays. -/
def arrayFunctions : List Text := words [
  "ArrayBsearch ArrayCopy ArrayCompare ArrayFree ArrayFill ArrayGetAsSeries ArrayInitialize",
  "ArrayIsDynamic ArrayIsSeries ArrayMaximum ArrayMinimum ArrayPrint ArrayRange ArrayResize",
  "ArrayRemove ArrayReverse ArraySetAsSeries ArraySize ArraySort ArraySwap ArrayInsert"]

/-- Functions that convert values. -/
def conversionFunctions : List Text := words [
  "CharToString CharArrayToString ColorToARGB ColorToString DoubleToString EnumToString",
  "IntegerToString NormalizeDouble ShortToString ShortArrayToString StringToCharArray",
  "StringToColor StringToDouble StringToInteger StringToShortArray StringToTime StringFormat",
  "TimeToString CharToStr DoubleToStr StrToDouble StrToInteger StrToTime TimeToStr"]

/-- Functions of mathematics. -/
def mathFunctions : List Text := words [
  "MathAbs MathArccos MathArcsin MathArctan MathCeil MathCos MathExp MathFloor",
  "MathIsValidNumber MathLog MathLog10 MathMax MathMin MathMod MathPow MathRand MathRound",
  "MathSin MathSqrt MathSrand MathTan"]

/-- Functions on strings. -/
def stringFunctions : List Text := words [
  "StringAdd StringBufferLen StringCompare StringConcatenate StringFill StringFind",
  "StringGetCharacter StringInit StringLen StringReplace StringSetCharacter StringSplit",
  "StringSubstr StringToLower StringToUpper StringTrimLeft StringTrimRight"]

/-- Functions on dates and times. -/
def timeFunctions : List Text := words [
  "TimeCurrent TimeDaylightSavings TimeGMT TimeGMTOffset TimeLocal TimeToStruct",
  "TimeTradeServer StructToTime TimeDay TimeDayOfWeek TimeDayOfYear TimeHour TimeMinute",
  "TimeMonth TimeSeconds TimeYear"]

/-- Functions about the account. -/
def accountFunctions : List Text := words [
  "AccountInfoDouble AccountInfoInteger AccountInfoString AccountBalance AccountEquity",
  "AccountFreeMargin AccountMargin AccountNumber AccountProfit"]

/-- Functions about the state of the program. -/
def checkupFunctions : List Text := words [
  "IsConnected IsDemo IsDllsAllowed IsExpertEnabled IsOptimization IsTesting IsTradeAllowed",
  "IsVisualMode MQLInfoInteger MQLInfoString TerminalInfoDouble TerminalInfoInteger",
  "TerminalInfoString Symbol Period Digits Point"]

/-- Functions about the market. -/
def marketFunctions : List Text := words [
  "MarketInfo SymbolExist SymbolInfoDouble SymbolInfoInteger SymbolInfoString SymbolInfoTick",
  "SymbolInfoSessionQuote SymbolInfoSessionTrade SymbolIsSynchronized SymbolName SymbolSelect",
  "SymbolsTotal MarketBookAdd MarketBookGet MarketBookRelease"]

/-- Functions on series of prices. -/
def seriesFunctions : List Text := words [
  "Bars BarsCalculated CopyBuffer CopyClose CopyHigh CopyLow CopyOpen CopyRates",
  "CopyRealVolume CopySpread CopyTickVolume CopyTicks CopyTicksRange CopyTime IndicatorCreate",
  "IndicatorParameters IndicatorRelease SeriesInfoInteger iBars iBarShift iClose iHigh",
  "iHighest iLow iLowest iOpen iTime iVolume RefreshRates"]

/-- Functions for custom indicators. -/
def customIndicatorFunctions : List Text := words [
  "IndicatorBuffers IndicatorDigits IndicatorSetDouble IndicatorSetInteger IndicatorSetString",
  "IndicatorShortName PlotIndexGetInteger PlotIndexSetDouble PlotIndexSetInteger",
  "PlotIndexSetString SetIndexBuffer SetIndexArrow SetIndexDrawBegin SetIndexEmptyValue",
  "SetIndexLabel SetIndexShift SetIndexStyle"]

/-- Functions of technical indicators. -/
def indicatorFunctions : List Text := words [
  "iAC iAD iADX iADXWilder iAlligator iAMA iAO iATR iBands iBearsPower iBullsPower iBWMFI",
  "iCCI iChaikin iCustom iDEMA iDeMarker iEnvelopes iForce iFractals iFrAMA iGator iIchimoku",
  "iMA iMACD iMFI iMomentum iOBV iOsMA iRSI iRVI iSAR iStdDev iStochastic iTEMA iTriX iVIDyA",
  "iVolumes iWPR"]

/-- Functions for trading in the newer flavor. -/
def trade5Functions : List Text := words [
  "OrderCalcMargin OrderCalcProfit OrderCheck OrderGetDouble OrderGetInteger OrderGetString",
  "OrderGetTicket OrderSelect OrderSend OrderSendAsync OrdersTotal PositionGetDouble",
  "PositionGetInteger PositionGetString PositionGetSymbol PositionGetTicket PositionSelect",
  "PositionSelectByTicket PositionsTotal HistoryDealGetDouble HistoryDealGetInteger",
  "HistoryDealGetString HistoryDealGetTicket HistoryDealSelect HistoryDealsTotal",
  "HistoryOrderGetDouble HistoryOrderGetInteger HistoryOrderGetString HistoryOrderGetTicket",
  "HistoryOrderSelect HistoryOrdersTotal HistorySelect HistorySelectByPosition"]

/-- Functions for trading in the older flavor. -/
def trade4Functions : List Text := words [
  "OrderClose OrderCloseBy OrderClosePrice OrderCloseTime OrderComment OrderCommission",
  "OrderDelete OrderExpiration OrderLots OrderMagicNumber OrderModify OrderOpenPrice",
  "OrderOpenTime OrderPrint OrderProfit OrderStopLoss OrderSwap OrderSymbol OrderTakeProfit",
  "OrderTicket OrderType OrdersHistoryTotal"]

/-- Functions on variables of the terminal. -/
def variableFunctions : List Text := words [
  "GlobalVariableCheck GlobalVariableDel GlobalVariableGet GlobalVariableName",
  "GlobalVariableSet GlobalVariableSetOnCondition GlobalVariableTemp GlobalVariableTime",
  "GlobalVariablesDeleteAll GlobalVariablesFlush GlobalVariablesTotal"]

/-- Functions on files. -/
def fileFunctions : List Text := words [
  "FileClose FileCopy FileDelete FileFindClose FileFindFirst FileFindNext FileFlush",
  "FileGetInteger FileIsEnding FileIsExist FileIsLineEnding FileMove FileOpen FileReadArray",
  "FileReadBool FileReadDatetime FileReadDouble FileReadInteger FileReadLong FileReadNumber",
  "FileReadString FileReadStruct FileSeek FileSize FileTell FileWrite FileWriteArray",
  "FileWriteDouble FileWriteInteger FileWriteLong FileWriteString FileWriteStruct FolderClean",
  "FolderCreate FolderDelete"]

/-- Functions on objects of a chart. -/
def objectFunctions : List Text := words [
  "ObjectCreate ObjectDelete ObjectFind ObjectGetDouble ObjectGetInteger ObjectGetString",
  "ObjectGetTimeByValue ObjectGetValueByTime ObjectMove ObjectName ObjectSetDouble",
  "ObjectSetInteger ObjectSetString ObjectsDeleteAll ObjectsTotal ObjectSet ObjectSetText",
  "ObjectGet"]

/-- Functions on charts. -/
def chartFunctions : List Text := words [
  "ChartApplyTemplate ChartClose ChartFirst ChartGetDouble ChartGetInteger ChartGetString",
  "ChartID ChartIndicatorAdd ChartIndicatorDelete ChartIndicatorGet ChartNavigate ChartNext",
  "ChartOpen ChartPeriod ChartRedraw ChartSaveTemplate ChartScreenShot ChartSetDouble",
  "ChartSetInteger ChartSetString ChartSetSymbolPeriod ChartSymbol ChartTimePriceToXY",
  "ChartWindowFind ChartXYToTimePrice WindowRedraw"]

/-- Functions on events. -/
def eventFunctions : List Text := words [
  "EventChartCustom EventKillTimer EventSetMillisecondTimer EventSetTimer"]

/-- Functions for the web. -/
def webFunctions : List Text := words [
  "WebRequest SocketCreate SocketConnect SocketSend SocketRead SocketClose"]

/-- All built-in functions. -/
def functions : List Text :=
  commonFunctions ++ arrayFunctions ++ conversionFunctions ++ mathFunctions ++ stringFunctions
    ++ timeFunctions ++ accountFunctions ++ checkupFunctions ++ marketFunctions ++
    seriesFunctions ++ customIndicatorFunctions ++ indicatorFunctions ++ trade5Functions ++
    trade4Functions ++ variableFunctions ++ fileFunctions ++ objectFunctions ++ chartFunctions
    ++ eventFunctions ++ webFunctions

/-- The dictionary of all built-in functions. -/
def dictionary : Dictionary := .ofNames functions

end MetaDesk.Spelling.Builtins
